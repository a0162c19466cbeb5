import Wordsmith.Proofs.Articles

/-!
# Markers

A marker is a chunk and a number of characters in it, noted when the chunk was the end of the
channel. Texts come and go in other chunks, before it and between it and others, so where in the
text it stands is told anew every time: behind the characters of all chunks before its chunk, and
behind those of its chunk that were there when it was set (`place`).

What two markers enclose is put together from a part of a chunk, some whole chunks and a part of
another, and the distance is added up along the same pieces. Both are what they should be because
the chunk of a marker never becomes shorter (`Coherent`): a stretch of the whole text, cut at the two
places, and its length. A marker that is set later never stands before one that was there
(`Coherent.le_ending`), so from marker to marker distances add up.

Main result: `markers_enclose`.
-/

namespace Wordsmith

/-! ## The order of markers -/

namespace Marker

variable {m n o : Marker}

theorem le_iff : m.le n = true ↔ m.chunk < n.chunk ∨ m.chunk = n.chunk ∧ m.offset ≤ n.offset := by
  simp [le]

theorem le_of_not_le (h : ¬m.le n = true) : n.le m = true := by
  rw [le_iff] at *
  omega

theorem le_antisymm (h : m.le n = true) (h' : n.le m = true) : m = n := by
  obtain ⟨i, k⟩ := m
  obtain ⟨j, l⟩ := n
  simp only [le_iff] at h h'
  simp only [mk.injEq]
  omega

end Marker

namespace Channel

variable {c : Channel} {m n : Marker} {a b : String}

/-! ## Places in the text -/

/-- The characters of the chunks before one. -/
def leading (c : Channel) (i : Nat) : List Char := (c.chunks.toList.take i).flatMap String.toList

/-- The number of characters before a marker: those of the chunks before its chunk, and its offset. -/
def place (c : Channel) (m : Marker) : Nat :=
  total ((c.chunks.toList.take m.chunk).map (·.length)) + m.offset

theorem place_eq (c : Channel) (m : Marker) : c.place m = (c.leading m.chunk).length + m.offset := by
  rw [place, leading, List.length_flatMap]
  rfl

theorem toList_value (c : Channel) : c.value.toList = c.chunks.toList.flatMap String.toList :=
  String.toList_join

/-- A marker stands in a chunk, before its end or at it. -/
structure Contains (c : Channel) (m : Marker) : Prop where
  chunk_lt : m.chunk < c.chunks.size
  offset_le : m.offset ≤ (c.chunk m.chunk).length

theorem Coherent.contains (h : c.Coherent) (hm : c.marker? a = some m) : c.Contains m :=
  let ⟨hlt, hle⟩ := h.marker a m hm
  ⟨hlt, hle⟩

theorem leading_succ {i : Nat} (hi : i < c.chunks.size) :
    c.leading (i + 1) = c.leading i ++ (c.chunk i).toList := by
  have hi' : i < c.chunks.toList.length := by simpa using hi
  have hchunk : c.chunk i = c.chunks.toList[i] := by
    rw [chunk_eq, List.getElem?_eq_getElem hi', Option.getD_some]
  rw [leading, leading, List.take_succ_eq_append_getElem hi', List.flatMap_append, hchunk,
    List.flatMap_singleton]

/-- Between two chunks stand the first of them and those strictly between. -/
theorem leading_of_lt {i j : Nat} (hij : i < j) (hj : j < c.chunks.size) :
    c.leading j = c.leading i ++ (c.chunk i).toList ++ (String.join (c.between i j)).toList := by
  have hparts : c.chunks.toList.take j =
      c.chunks.toList.take (i + 1) ++ (c.chunks.toList.take j).drop (i + 1) := by
    have h := (List.take_append_drop (i + 1) (c.chunks.toList.take j)).symm
    rwa [List.take_take, Nat.min_eq_left hij] at h
  have hbetween : c.between i j = (c.chunks.toList.take j).drop (i + 1) := by
    rw [between, Array.toList_extract, List.extract_eq_take_drop, List.drop_take]
  rw [← leading_succ (Nat.lt_trans hij hj), leading, hparts, List.flatMap_append, ← hbetween,
    String.toList_join]
  rfl

namespace Contains

/-- The text up to a marker. -/
theorem take_place (h : c.Contains m) : c.value.toList.take (c.place m) =
    c.leading m.chunk ++ (c.chunk m.chunk).toList.take m.offset := by
  obtain ⟨hlt, hle⟩ := h
  have hsplit : c.value.toList = c.leading m.chunk ++ ((c.chunk m.chunk).toList ++
      (c.chunks.toList.drop (m.chunk + 1)).flatMap String.toList) := by
    rw [← List.append_assoc, ← leading_succ hlt, leading, ← List.flatMap_append,
      List.take_append_drop, toList_value]
  rw [hsplit, place_eq, List.take_length_add_append,
    List.take_append_of_le_length (by rwa [String.length_toList])]

theorem place_le (h : c.Contains m) : c.place m ≤ c.value.length := by
  have hlength := congrArg List.length h.take_place
  rw [List.length_take, List.length_append, List.length_take, String.length_toList,
    String.length_toList, Nat.min_eq_left h.offset_le, ← place_eq] at hlength
  omega

/-- Of two markers, the one that is not behind the other is at a place not behind the other's. -/
theorem place_le_place (hm : c.Contains m) (hn : c.Contains n) (hle : m.le n = true) :
    c.place m ≤ c.place n := by
  rw [place_eq, place_eq]
  rcases Marker.le_iff.1 hle with hlt | ⟨heq, hoffset⟩
  · have hlength := congrArg List.length (leading_of_lt hlt hn.chunk_lt)
    have hoffset := hm.offset_le
    simp only [List.length_append, String.length_toList] at hlength
    omega
  · rw [heq]
    omega

end Contains

/-! ## What two markers enclose -/

/-- The text from one place to another. -/
def stretch (c : Channel) (first last : Nat) : String :=
  .ofList ((c.value.toList.take last).drop first)

theorem ordered?_of_le (ha : c.marker? a = some m) (hb : c.marker? b = some n)
    (hle : m.le n = true) :
    c.ordered? a b = some (m, n) ∧ c.ordered? b a = some (m, n) := by
  simp only [ordered?, ha, hb, Option.bind_some, Option.map_some, hle, if_true, true_and]
  split
  · next hge => rw [Marker.le_antisymm hle hge]
  · rfl

/-- The pieces that are put together are the text between the markers. -/
theorem pieces_eq_stretch (hm : c.Contains m) (hn : c.Contains n) (hle : m.le n = true) :
    (if m.chunk = n.chunk then
      String.ofList (((c.chunk m.chunk).toList.take n.offset).drop m.offset)
    else
      String.ofList ((c.chunk m.chunk).toList.drop m.offset) ++
        String.join (c.between m.chunk n.chunk) ++
        String.ofList ((c.chunk n.chunk).toList.take n.offset)) =
      c.stretch (c.place m) (c.place n) := by
  rw [stretch, hn.take_place, place_eq c m]
  split
  · next heq => rw [heq, List.drop_length_add_append]
  · next hne =>
    have hlt : m.chunk < n.chunk := by
      rcases Marker.le_iff.1 hle with hlt | ⟨heq, -⟩
      · exact hlt
      · exact absurd heq hne
    have hoffset : m.offset ≤ (c.chunk m.chunk).toList.length := hm.offset_le
    rw [leading_of_lt hlt hn.chunk_lt, List.append_assoc, List.append_assoc,
      List.drop_length_add_append, List.drop_append_of_le_length hoffset, String.ofList_append,
      String.ofList_append, String.ofList_toList, String.append_assoc]

/-- The pieces that are added up are the distance between the places. -/
theorem pieces_eq_distance (hm : c.Contains m) (hn : c.Contains n) (hle : m.le n = true) :
    (if m.chunk = n.chunk then n.offset - m.offset
    else (c.chunk m.chunk).length - m.offset +
      total ((c.between m.chunk n.chunk).map (·.length)) + n.offset) =
      c.place n - c.place m := by
  rw [place_eq, place_eq]
  split
  · next heq =>
    rw [heq]
    omega
  · next hne =>
    have hlt : m.chunk < n.chunk := by
      rcases Marker.le_iff.1 hle with hlt | ⟨heq, -⟩
      · exact hlt
      · exact absurd heq hne
    have hbetween : (String.join (c.between m.chunk n.chunk)).toList.length =
        total ((c.between m.chunk n.chunk).map (·.length)) := String.length_join
    have hoffset := hm.offset_le
    rw [leading_of_lt hlt hn.chunk_lt, List.length_append, List.length_append, hbetween,
      String.length_toList]
    omega

theorem region?_of_le (h : c.Coherent) (ha : c.marker? a = some m) (hb : c.marker? b = some n)
    (hle : m.le n = true) :
    c.region? a b = some (c.stretch (c.place m) (c.place n)) ∧
      c.region? b a = some (c.stretch (c.place m) (c.place n)) := by
  obtain ⟨hab, hba⟩ := ordered?_of_le ha hb hle
  have hpieces := congrArg some (pieces_eq_stretch (h.contains ha) (h.contains hb) hle)
  rw [region?, region?, hab, hba]
  exact ⟨hpieces, hpieces⟩

theorem distance?_of_le (h : c.Coherent) (ha : c.marker? a = some m) (hb : c.marker? b = some n)
    (hle : m.le n = true) :
    c.distance? a b = some (c.place n - c.place m) ∧
      c.distance? b a = some (c.place n - c.place m) := by
  obtain ⟨hab, hba⟩ := ordered?_of_le ha hb hle
  have hpieces := congrArg some (pieces_eq_distance (h.contains ha) (h.contains hb) hle)
  rw [distance?, distance?, hab, hba]
  exact ⟨hpieces, hpieces⟩

/-- What stands between two places of the text is as long as they are apart. -/
theorem length_stretch (i : Nat) {j : Nat} (hj : j ≤ c.value.length) :
    (c.stretch i j).length = j - i := by
  have hlength : c.value.toList.length = c.value.length := String.length_toList
  rw [stretch, String.length_ofList, List.length_drop, List.length_take, hlength,
    Nat.min_eq_left hj]

/-! ## Markers in the order in which they were set -/

/-- The channel has been used so that markers were set one after the other, the last of them first,
and none of them anew since. -/
inductive Marked : Channel → List String → Prop
  | reached {c : Channel} (h : c.Reachable) : Marked c []
  | set {c : Channel} {names : List String} (h : Marked c names) (name : String)
    (hnew : name ∉ names) : Marked (c.setMarker name) (name :: names)
  | operate {c : Channel} {names : List String} (h : Marked c names) (operation : Operation)
    (hkept : ∀ name ∈ names, operation ≠ .setMarker name) : Marked (operation.apply c) names
  | turn {c : Channel} {names : List String} (h : Marked c names) (visibility : Visibility) :
    Marked { c with visibility := visibility } names

/-- The distances from marker to marker, added up. -/
def journey? (c : Channel) : List String → Option Nat
  | a :: b :: names => do return (← c.distance? a b) + (← c.journey? (b :: names))
  | _ => some 0

/-- An operation leaves the markers alone, unless it sets one. -/
theorem Operation.marker?_apply {operation : Operation} (h : operation ≠ .setMarker a) :
    (operation.apply c).marker? a = c.marker? a := by
  cases operation with
  | setMode | writeArticle | createTarget => rfl
  | write text =>
    obtain ⟨_, _, -, hwrite⟩ := c.write_eq text
    rw [apply, hwrite]
    rfl
  | commit p =>
    simp only [apply, Channel.commit, refreshArticle_eq]
    split
    · rfl
    · split <;> rfl
  | writeTarget name value overwrite =>
    simp only [apply, Channel.writeTarget, refreshArticle_eq]
    split
    · cases overwrite <;> split <;> rfl
    · rfl
  | clearTarget name =>
    simp only [apply, Channel.clearTarget]
    split <;> rfl
  | setMarker name =>
    have hne : name ≠ a := fun heq => h (heq ▸ rfl)
    simp [apply, Channel.setMarker, marker?, hne]

/-- No marker is behind the end of the channel, where the next one will be set. -/
theorem Coherent.le_ending (h : c.Coherent) (hm : c.marker? a = some m) :
    m.le ⟨c.current, (c.chunk c.current).length⟩ = true := by
  obtain ⟨hlt, hle⟩ := h.marker a m hm
  have hcurrent := h.current_eq
  rw [Marker.le_iff]
  rcases Nat.lt_or_ge m.chunk c.current with hbefore | hlast
  · exact .inl hbefore
  · have heq : m.chunk = c.current := by omega
    exact .inr ⟨heq, heq ▸ hle⟩

namespace Marked

variable {names : List String}

theorem reachable (h : c.Marked names) : c.Reachable := by
  induction h with
  | reached h => exact h
  | set _ name _ ih => exact ih.operate (.setMarker name)
  | operate _ operation _ ih => exact ih.operate operation
  | turn _ visibility ih => exact ih.turn visibility

/-- Markers that were set later are behind those that were set before. -/
theorem exists_markers (h : c.Marked names) : ∃ markers : List Marker,
    names.map c.marker? = markers.map some ∧ markers.Pairwise fun m n => n.le m = true := by
  induction h with
  | reached => exact ⟨[], rfl, .nil⟩
  | @set c names h name hnew ih =>
    obtain ⟨markers, hmarkers, hordered⟩ := ih
    have hset : (c.setMarker name).marker? name =
        some ⟨c.current, (c.chunk c.current).length⟩ := by simp [setMarker, marker?]
    have hkept : names.map (c.setMarker name).marker? = names.map c.marker? := by
      refine List.map_congr_left fun other hother => ?_
      have hne : Operation.setMarker name ≠ .setMarker other := by
        rintro ⟨⟩
        exact hnew hother
      exact Operation.marker?_apply hne
    refine ⟨⟨c.current, (c.chunk c.current).length⟩ :: markers, ?_, .cons (fun n hn => ?_) hordered⟩
    · rw [List.map_cons, List.map_cons, hset, hkept, hmarkers]
    · obtain ⟨other, -, hother⟩ := List.mem_map.1 (hmarkers ▸ List.mem_map_of_mem hn)
      exact h.reachable.orderly.toCoherent.le_ending hother
  | @operate c names _ operation hkept ih =>
    obtain ⟨markers, hmarkers, hordered⟩ := ih
    refine ⟨markers, ?_, hordered⟩
    rw [← hmarkers]
    exact List.map_congr_left fun name hname => Operation.marker?_apply (hkept name hname)
  | turn _ _ ih => exact ih

end Marked

/-- From marker to marker, each of them behind the next, the distances add up. -/
theorem journey?_eq (h : c.Coherent) {a b : String} {m n : Marker} {names : List String}
    {markers : List Marker} (ha : c.marker? a = some m) (hb : c.marker? b = some n)
    (hmarkers : names.map c.marker? = markers.map some)
    (hordered : (m :: markers ++ [n]).Pairwise fun m n => n.le m = true) :
    c.journey? (a :: names ++ [b]) = some (c.place m - c.place n) := by
  induction names generalizing a m markers with
  | nil =>
    obtain rfl : markers = [] := List.map_eq_nil_iff.1 hmarkers.symm
    have hle : n.le m = true := (List.pairwise_cons.1 hordered).1 n (by simp)
    have hdistance := (distance?_of_le h hb ha hle).2
    simp [journey?, hdistance]
  | cons name names ih =>
    cases markers with
    | nil => cases hmarkers
    | cons o markers =>
      obtain ⟨ho, hmarkers⟩ := List.cons.inj hmarkers
      obtain ⟨hfirst, hordered⟩ := List.pairwise_cons.1 hordered
      have hle : o.le m = true := hfirst o (by simp)
      have hend : n.le o = true := (List.pairwise_cons.1 hordered).1 n (by simp)
      have hdistance := (distance?_of_le h ho ha hle).2
      have hrest := ih ho hmarkers hordered
      have hplace := (h.contains ho).place_le_place (h.contains ha) hle
      have hplace' := (h.contains hb).place_le_place (h.contains ho) hend
      have hsum : c.journey? (a :: name :: (names ++ [b])) =
          some (c.place m - c.place o + (c.place o - c.place n)) := by
        rw [List.cons_append] at hrest
        rw [journey?, hdistance, hrest]
        rfl
      rw [List.cons_append, List.cons_append, hsum]
      congr 1
      omega

/-- However a channel came to be, what two of its markers enclose is the text from the one place to
the other, whichever comes first, and their distance is the number of its characters. And the
distances between markers that were set one after the other add up, whatever has been done since
then to the text between them. -/
theorem markers_enclose (h : c.Reachable) :
    (∀ a b m n, c.marker? a = some m → c.marker? b = some n →
      let first := min (c.place m) (c.place n)
      let last := max (c.place m) (c.place n)
      last ≤ c.value.length ∧ c.region? a b = some (c.stretch first last) ∧
        (c.stretch first last).length = last - first ∧ c.distance? a b = some (last - first) ∧
        c.distance? b a = c.distance? a b) ∧
      ∀ first between last, c.Marked (last :: between ++ [first]) →
        ∃ d, c.distance? first last = some d ∧ c.journey? (last :: between ++ [first]) = some d := by
  have hcoherent := h.orderly.toCoherent
  constructor
  · intro a b m n ha hb
    dsimp only
    rcases Bool.eq_false_or_eq_true (m.le n) with hle | hgt
    · have hplace := (hcoherent.contains ha).place_le_place (hcoherent.contains hb) hle
      have hend := (hcoherent.contains hb).place_le
      obtain ⟨hdistance, hdistance'⟩ := distance?_of_le hcoherent ha hb hle
      rw [Nat.min_eq_left hplace, Nat.max_eq_right hplace]
      exact ⟨hend, (region?_of_le hcoherent ha hb hle).1, length_stretch _ hend, hdistance,
        hdistance'.trans hdistance.symm⟩
    · have hle := Marker.le_of_not_le (Bool.eq_false_iff.1 hgt)
      have hplace := (hcoherent.contains hb).place_le_place (hcoherent.contains ha) hle
      have hend := (hcoherent.contains ha).place_le
      obtain ⟨hdistance', hdistance⟩ := distance?_of_le hcoherent hb ha hle
      rw [Nat.min_eq_right hplace, Nat.max_eq_left hplace]
      exact ⟨hend, (region?_of_le hcoherent hb ha hle).2, length_stretch _ hend, hdistance,
        hdistance'.trans hdistance.symm⟩
  · intro first between last hmarked
    obtain ⟨markers, hmarkers, hordered⟩ := hmarked.exists_markers
    rw [List.map_append, List.map_cons] at hmarkers
    obtain ⟨_, _, rfl, hlater, hfirst⟩ := List.map_eq_append_iff.1 hmarkers.symm
    obtain ⟨m, markers, rfl, hlast, hbetween⟩ := List.map_eq_cons_iff.1 hlater
    obtain ⟨n, _, rfl, hn, hnil⟩ := List.map_eq_cons_iff.1 hfirst
    obtain rfl := List.map_eq_nil_iff.1 hnil
    have hle : n.le m = true := (List.pairwise_cons.1 hordered).1 n (by simp)
    exact ⟨_, (distance?_of_le hcoherent hn.symm hlast.symm hle).1,
      journey?_eq hcoherent hlast.symm hn.symm hbetween.symm hordered⟩

/-- An article has grown, and a target was written twice, between markers that were set before. -/
theorem markers_enclose_spliced :
    let c := ((((((((empty "main" .public).setMarker "start").writeArticle.setMarker "word").write
      " ow").createTarget "letter").write "s: hü").setMarker "end").writeTarget "letter" "n"
        false).writeTarget "letter" "l" true
    c.Reachable ∧ c.value = "an owls: hü" ∧ c.Marked ["end", "word", "start"] ∧
      c.region? "end" "word" = some " owls: hü" ∧ c.distance? "start" "end" = some 11 ∧
      c.journey? ["end", "word", "start"] = some 11 := by
  intro c
  have hword : ((((empty "main" .public).setMarker "start").writeArticle).setMarker "word").Marked
      ["word", "start"] :=
    (((Marked.reached (reachable_empty "main" .public)).set "start" (by decide)).operate
      .writeArticle nofun).set "word" (by decide)
  have hmarked : c.Marked ["end", "word", "start"] :=
    (((((hword.operate (.write " ow") nofun).operate (.createTarget "letter") nofun).operate
      (.write "s: hü") nofun).set "end" (by decide)).operate (.writeTarget "letter" "n" false)
      nofun).operate (.writeTarget "letter" "l" true) nofun
  have hreached := hmarked.reachable
  obtain ⟨henclose, hadd⟩ := markers_enclose hreached
  obtain ⟨-, hregion, -⟩ :=
    henclose "end" "word" ⟨4, 5⟩ ⟨2, 0⟩ (by decide +kernel) (by decide +kernel)
  obtain ⟨d, hdistance, hjourney⟩ := hadd "start" ["word"] "end" hmarked
  have hd : c.distance? "start" "end" = some 11 := by decide +kernel
  cases hdistance.symm.trans hd
  exact ⟨hreached, by decide +kernel, hmarked, hregion.trans (by decide +kernel), hd, hjourney⟩

end Channel

end Wordsmith
