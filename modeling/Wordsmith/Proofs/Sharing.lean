import Wordsmith.Order.Shared

/-!
# Shared orders do not interfere

What is known under a name is an order, if it was created, and whether a pin waits for it. An action
on a name answers and leaves what these two tell (`Action.play`), and what it does to the table and to
the queue of pins is out of sight of every other name. So all that happens under a name can be played
without the other names, and a run over many names falls apart into one for each of them, in whatever
order their actions come.

Main result: `names_apart`.
-/

namespace Wordsmith

namespace SharedOrders

/-! ## Requests -/

/-- What is done to the order of a name. -/
inductive Action where
  | create (kind : OrderKind) (seed : UInt64)
  | setPinned (pinned : Bool)
  | step
  | reset
  | reseed (seed : String)
  | next (count : Nat)

/-- What an action answers. -/
inductive Answer where
  | done
  | found (known : Bool)
  | dealt (item : Option Nat)

/-- An action on a name. -/
structure Request where
  name : String
  action : Action

namespace Request

/-- What a request answers, and the orders behind it. -/
def perform (s : SharedOrders) (r : Request) : Answer × SharedOrders :=
  match r.action with
  | .create kind seed => (.done, s.create r.name kind seed)
  | .setPinned pinned => (.done, s.setPinned r.name pinned)
  | .step => (s.step r.name).map .found id
  | .reset => (s.reset r.name).map .found id
  | .reseed seed => (s.reseed r.name seed).map .found id
  | .next count => (s.next r.name count).map .dealt id

/-- The request creates an order under the name. -/
def creates (name : String) (r : Request) : Bool :=
  match r.action with
  | .create _ _ => r.name = name
  | _ => false

/-- What the request says about the pin of a name. -/
def pin? (name : String) (r : Request) : Option Bool :=
  match r.action with
  | .setPinned pinned => if r.name = name then some pinned else none
  | _ => none

end Request

/-- The orders behind some requests. -/
def after (s : SharedOrders) (requests : List Request) : SharedOrders :=
  requests.foldl (fun s r => (r.perform s).2) s

/-- What the last of the requests that say anything about the pin of a name says about it; none is as
good as one that frees it. -/
def lastPin (name : String) (requests : List Request) : Bool :=
  ((requests.filterMap (·.pin? name)).getLast?).getD false

/-- What requests answer, with the names that they ask for. -/
def answers (s : SharedOrders) : List Request → List (String × Answer)
  | [] => []
  | r :: rest => (r.name, (r.perform s).1) :: answers (r.perform s).2 rest

/-! ## One name alone -/

/-- What is known under a name. -/
structure Place where
  order : Option Order
  /-- Whether a pin waits for the order. -/
  waits : Bool

/-- All that the orders tell about a name. -/
def place (s : SharedOrders) (name : String) : Place := ⟨s.get? name, s.pinQueue.contains name⟩

/-- The place with its order changed, if there is one. -/
def Place.change (p : Place) (f : Order → Order) : Place := { p with order := p.order.map f }

/-- What an action on a name answers, and what is known behind it, told by what is known. -/
def Action.play (name : String) (p : Place) : Action → Answer × Place
  | .create kind seed =>
    (.done, match p.order with
      | some _ => p
      | none =>
        let order := Order.ofSeed kind (Draw.word (Draw.keyWord name) seed)
        ⟨some { order with pinned := p.waits }, false⟩)
  | .setPinned pinned =>
    (.done, match p.order with
      | some order => { p with order := some { order with pinned := pinned } }
      | none => { p with waits := pinned })
  | .step => (.found p.order.isSome, p.change fun order => (order.step true).2)
  | .reset => (.found p.order.isSome, p.change Order.reset)
  | .reseed seed => (.found p.order.isSome, p.change fun order => order.reseed seed)
  | .next count =>
    (.dealt (p.order.map fun order => (order.next count).1),
      p.change fun order => (order.next count).2)

/-- The orders have a place under one name, and are as before under all others. -/
def Puts (s : SharedOrders) (name : String) (p : Place) (s' : SharedOrders) : Prop :=
  ∀ other, s'.place other = if name = other then p else s.place other

section

variable {s s' : SharedOrders} {name : String} {p : Place}

theorem puts_iff : s.Puts name p s' ↔
    (∀ other, s'.get? other = if name = other then p.order else s.get? other) ∧
      ∀ other, s'.pinQueue.contains other =
        if name = other then p.waits else s.pinQueue.contains other := by
  rw [← forall_and]
  refine forall_congr' fun other => ?_
  rw [place]
  split <;> exact Place.mk.injEq .. ▸ Iff.rfl

/-- What stays is as before under the name, too. -/
theorem eq_ite_self {α : Type} {f : String → α} {a : α} (h : f name = a) (other : String) :
    f other = if name = other then a else f other := by
  split
  · next hname => rw [← hname, h]
  · rfl

theorem contains_dropped (queue : List String) (name other : String) :
    (queue.filter (· != name)).contains other =
      if name = other then false else queue.contains other := by
  rw [Bool.eq_iff_iff, List.contains_iff_mem, List.mem_filter]
  split
  · next h => simp [h]
  · next h => simp [Ne.symm h]

theorem contains_queued (queue : List String) (name other : String) :
    (name :: queue.filter (· != name)).contains other =
      if name = other then true else queue.contains other := by
  rw [List.contains_cons, contains_dropped]
  split
  · next h => simp [h]
  · next h => simp [Ne.symm h]

variable (s name)

theorem puts_create (kind : OrderKind) (seed : UInt64) :
    s.Puts name ((Action.create kind seed).play name (s.place name)).2 (s.create name kind seed) := by
  rw [create, contains, Named.contains, Action.play, place, get?]
  dsimp only
  cases hget : s.table.get? name with
  | some order => exact puts_iff.2 ⟨eq_ite_self hget, eq_ite_self rfl⟩
  | none => exact puts_iff.2 ⟨fun other => Named.get?_insert .., contains_dropped s.pinQueue name⟩

theorem puts_setPinned (pinned : Bool) :
    s.Puts name ((Action.setPinned pinned).play name (s.place name)).2 (s.setPinned name pinned) := by
  rw [setPinned, Action.play, place, get?]
  dsimp only
  cases hget : s.table.get? name with
  | some order => exact puts_iff.2 ⟨fun other => Named.get?_insert .., eq_ite_self rfl⟩
  | none =>
    refine puts_iff.2 ⟨eq_ite_self hget, ?_⟩
    cases pinned with
    | false => exact contains_dropped s.pinQueue name
    | true => exact contains_queued s.pinQueue name

theorem update_eq (f : Order → Order) : (s.update name f).1 = (s.place name).order.isSome ∧
    s.Puts name ((s.place name).change f) (s.update name f).2 := by
  rw [update, place, Place.change, get?]
  cases hget : s.table.get? name with
  | some order => exact ⟨rfl, puts_iff.2 ⟨fun other => Named.get?_insert .., eq_ite_self rfl⟩⟩
  | none => exact ⟨rfl, puts_iff.2 ⟨eq_ite_self hget, eq_ite_self rfl⟩⟩

theorem next_eq (count : Nat) :
    (s.next name count).1 = (s.place name).order.map (fun order => (order.next count).1) ∧
      s.Puts name ((s.place name).change fun order => (order.next count).2) (s.next name count).2 := by
  rw [next, place, Place.change, get?]
  cases hget : s.table.get? name with
  | some order => exact ⟨rfl, puts_iff.2 ⟨fun other => Named.get?_insert .., eq_ite_self rfl⟩⟩
  | none => exact ⟨rfl, puts_iff.2 ⟨eq_ite_self hget, eq_ite_self rfl⟩⟩

end

/-- A request answers and leaves under its name what its action does there, and leaves all other names
alone. -/
theorem Request.perform_eq (s : SharedOrders) (r : Request) :
    (r.perform s).1 = (r.action.play r.name (s.place r.name)).1 ∧
      s.Puts r.name (r.action.play r.name (s.place r.name)).2 (r.perform s).2 := by
  obtain ⟨name, action⟩ := r
  cases action with
  | create kind seed => exact ⟨rfl, s.puts_create name kind seed⟩
  | setPinned pinned => exact ⟨rfl, s.puts_setPinned name pinned⟩
  | step => exact (s.update_eq name fun order => (order.step true).2).imp_left (congrArg Answer.found)
  | reset => exact (s.update_eq name Order.reset).imp_left (congrArg Answer.found)
  | reseed seed =>
    exact (s.update_eq name fun order => order.reseed seed).imp_left (congrArg Answer.found)
  | next count => exact (s.next_eq name count).imp_left (congrArg Answer.dealt)

/-! ## Many names -/

section

variable {s t : SharedOrders} {name : String}

/-- What requests answer and leave under a name does not depend on the requests for other names. -/
theorem answers_own (h : s.place name = t.place name) (requests : List Request) :
    (answers s requests).filter (·.1 = name) = answers t (requests.filter (·.name = name)) ∧
      (s.after requests).place name = (t.after (requests.filter (·.name = name))).place name := by
  induction requests generalizing s t with
  | nil => exact ⟨rfl, h⟩
  | cons r rest ih =>
    obtain ⟨hs, hs'⟩ := r.perform_eq s
    by_cases hname : r.name = name
    · -- both runs perform it, and find the same under the name
      subst hname
      obtain ⟨ht, ht'⟩ := r.perform_eq t
      have hnext : (r.perform s).2.place r.name = (r.perform t).2.place r.name := by
        rw [hs' r.name, ht' r.name, h]
      obtain ⟨hanswers, hplace⟩ := ih hnext
      rw [List.filter_cons_of_pos (by simp)]
      refine ⟨?_, hplace⟩
      rw [answers, answers, List.filter_cons_of_pos (by simp), hanswers, hs, ht, h]
    · -- only the run over all names performs it, out of sight of this one
      have hnext : (r.perform s).2.place name = t.place name := by
        rw [hs' name, if_neg hname, h]
      obtain ⟨hanswers, hplace⟩ := ih hnext
      rw [List.filter_cons_of_neg (by simpa using hname)]
      refine ⟨?_, hplace⟩
      rw [answers, List.filter_cons_of_neg (by simpa using hname), hanswers]

/-- An order exists under a name behind a request if it existed before or was created. -/
theorem isSome_order_perform (s : SharedOrders) (name : String) (r : Request) :
    ((r.perform s).2.place name).order.isSome =
      ((s.place name).order.isSome || r.creates name) := by
  rw [(r.perform_eq s).2 name]
  obtain ⟨rname, action⟩ := r
  dsimp only
  split
  · next hname =>
    subst hname
    cases action <;> cases h : (s.place rname).order <;>
      simp [Action.play, Place.change, Request.creates, h]
  · next hname =>
    cases action <;> simp [Request.creates, hname]

theorem contains_after (s : SharedOrders) (name : String) (requests : List Request) :
    (s.after requests).contains name = (s.contains name || requests.any (·.creates name)) := by
  induction requests generalizing s with
  | nil => exact (Bool.or_false _).symm
  | cons r rest ih =>
    have hstep : (r.perform s).2.contains name = (s.contains name || r.creates name) :=
      isSome_order_perform s name r
    rw [List.any_cons, ← Bool.or_assoc, ← hstep]
    exact ih _

theorem place_perform_of_not_creates (hnone : (s.place name).order = none) {r : Request}
    (h : r.creates name = false) :
    (r.perform s).2.place name = ⟨none, (r.pin? name).getD (s.place name).waits⟩ := by
  obtain ⟨rname, action⟩ := r
  rw [((Request.mk rname action).perform_eq s).2 name]
  dsimp only
  split
  · next hname =>
    subst hname
    cases action <;> simp_all [Action.play, Place.change, Request.creates, Request.pin?]
  · next hname =>
    have hplace : s.place name = ⟨none, (s.place name).waits⟩ := by rw [← hnone]
    cases action <;> simp [Request.pin?, hname, ← hplace]

/-- As long as no order is created under a name, nothing is known but the last pin. -/
theorem place_after_of_not_creates (hnone : (s.place name).order = none) {requests : List Request}
    (h : requests.any (·.creates name) = false) : (s.after requests).place name =
      ⟨none, ((requests.filterMap (·.pin? name)).getLast?).getD (s.place name).waits⟩ := by
  induction requests generalizing s with
  | nil => exact hnone ▸ rfl
  | cons r rest ih =>
    obtain ⟨hfirst, hrest⟩ := Bool.or_eq_false_iff.1 (List.any_cons ▸ h)
    have hstep := place_perform_of_not_creates hnone hfirst
    have hafter := ih (s := (r.perform s).2) (congrArg Place.order hstep) hrest
    rw [hstep] at hafter
    refine hafter.trans (congrArg (Place.mk none) ?_)
    cases hpin : r.pin? name with
    | none => rw [List.filterMap_cons_none hpin]; rfl
    | some pinned => rw [List.filterMap_cons_some hpin, List.getLast?_cons]; rfl

end

/-- What is done to the orders of other names, and when, does not matter for an order: the answers for
its name are those of its own requests alone, and so are the same in all runs in which these requests
come in the same order. It exists once it is created, and to create it again changes nothing; when it
is created first, it is a new order with the seed of its name, pinned if the last request for a pin
before that said so. -/
theorem names_apart (requests : List Request) :
    (∀ name, (answers empty requests).filter (·.1 = name) =
        answers empty (requests.filter (·.name = name))) ∧
      (∀ others : List Request,
        (∀ name, others.filter (·.name = name) = requests.filter (·.name = name)) → ∀ name,
          (answers empty others).filter (·.1 = name) = (answers empty requests).filter (·.1 = name) ∧
            (empty.after others).get? name = (empty.after requests).get? name) ∧
      ∀ name kind seed,
        let s := empty.after requests
        s.contains name = requests.any (·.creates name) ∧
          (s.contains name = true → s.create name kind seed = s) ∧
          (s.contains name = false → (s.create name kind seed).get? name =
            some { Order.ofSeed kind (Draw.word (Draw.keyWord name) seed) with
              pinned := lastPin name requests }) := by
  -- a run and its part for one name both begin with nothing known under that name
  have hown := fun (requests : List Request) (name : String) =>
    answers_own (rfl : empty.place name = empty.place name) requests
  refine ⟨fun name => (hown requests name).1, fun others hsame name => ⟨?_, ?_⟩,
    fun name kind seed =>
      ⟨contains_after empty name requests, fun hknown => if_pos hknown, fun hnew => ?_⟩⟩
  · rw [(hown others name).1, (hown requests name).1, hsame]
  · have hplace : (empty.after others).place name = (empty.after requests).place name := by
      rw [(hown others name).2, (hown requests name).2, hsame]
    exact congrArg Place.order hplace
  · have hnone : (empty.place name).order = none := rfl
    have hplace := place_after_of_not_creates hnone
      ((contains_after empty name requests).symm.trans hnew)
    have hcreate := (empty.after requests).puts_create name kind seed name
    rw [if_pos rfl, hplace] at hcreate
    exact congrArg Place.order hcreate

/-- Two orders in use, created the other way around, and a third one that is pinned before it exists. -/
theorem names_apart_three :
    let requests : List Request := [⟨"a", .setPinned true⟩, ⟨"b", .create .reverse 7⟩,
      ⟨"a", .create .deck 7⟩, ⟨"b", .next 3⟩, ⟨"a", .next 3⟩, ⟨"a", .step⟩, ⟨"c", .setPinned false⟩,
      ⟨"b", .next 3⟩, ⟨"c", .setPinned true⟩]
    let others : List Request := [⟨"a", .setPinned true⟩, ⟨"a", .create .deck 7⟩,
      ⟨"b", .create .reverse 7⟩, ⟨"a", .next 3⟩, ⟨"a", .step⟩, ⟨"b", .next 3⟩, ⟨"b", .next 3⟩,
      ⟨"c", .setPinned false⟩, ⟨"c", .setPinned true⟩]
    let s := empty.after requests
    (∀ name, others.filter (·.name = name) = requests.filter (·.name = name)) ∧
      (answers empty others).filter (·.1 = "b") = (answers empty requests).filter (·.1 = "b") ∧
      s.contains "b" = true ∧ s.create "b" .ping 9 = s ∧
      s.contains "c" = false ∧ lastPin "c" requests = true ∧
      (s.create "c" .ping 9).get? "c" =
        some { Order.ofSeed .ping (Draw.word (Draw.keyWord "c") 9) with pinned := true } := by
  intro requests others s
  have hsame : ∀ name, others.filter (·.name = name) = requests.filter (·.name = name) := by
    intro name
    by_cases ha : "a" = name
    · subst ha
      rfl
    · by_cases hb : "b" = name
      · subst hb
        rfl
      · simp [requests, others, List.filter_cons, ha, hb]
  have hpin : lastPin "c" requests = true := by decide
  obtain ⟨-, hothers, hcreate⟩ := names_apart requests
  obtain ⟨hcontains, hagain, -⟩ := hcreate "b" .ping 9
  obtain ⟨hlacks, -, hnew⟩ := hcreate "c" .ping 9
  have hcreated : s.contains "b" = true := hcontains.trans (by decide)
  have hfree : s.contains "c" = false := hlacks.trans (by decide)
  exact ⟨hsame, (hothers others hsame "b").1, hcreated, hagain hcreated, hfree, hpin,
    hpin ▸ hnew hfree⟩

end SharedOrders

end Wordsmith
