import Wordsmith.Bracket
import Wordsmith.Machine.Basic
import Wordsmith.Machine.Perform
import Wordsmith.Tag.Table
import Wordsmith.Token.Literal

/-!
# Steps

A step does one thing in the innermost frame: it takes an action that is due, or else runs the
next token, or else ends the frame. A step never waits for another: what has to follow is deferred,
and what has to come first is pushed on top.
-/

namespace Wordsmith

namespace Machine

variable {s : Setting}

/-! ## Blocks -/

/-- The block that was read before at the current place. -/
def known? (m : Machine s) (place : Pattern × Nat) : Option ReadBlock :=
  if s.shortcuts.blocks then (m.blocks.find? fun e => e.1 == place).map (·.2) else none

/-- Reads the block whose opener has just been read, or recalls it. -/
def readBlock (m : Machine s) : Except RunError (Block × Machine s) := do
  match m.top? with
  | none => m.scan (do return .ofPassages (← Block.readItems))
  | some f =>
    let place := (f.reader.passage.pattern, f.reader.index - 1)
    match m.known? place with
    | some known =>
      return (known.block, m.modifyTop fun f => { f with reader := f.reader.jump known.stop })
    | none =>
      let ((block, stop), m) ← m.scan (do
        let items ← Block.readItems
        return (Block.ofPassages items, (← get).index))
      return (block, { m with blocks := (place, ⟨block, stop⟩) :: m.blocks })

/-- Whether a block is entered that has the given attributes. A chance below 100 costs a draw. -/
def isEntered (b : Block) (a : Attributes) : Act Bool := do
  if b.size = 0 ∨ b.totalWeight ≤ 0 then return false
  else if a.chance < 100 then return (← Act.draw (·.lessThan 100)) < a.chance
  else return true

/-- Enters a block with the attributes that wait for one. -/
def enterBlock (m : Machine s) (b : Block) : Except RunError (Machine s) := do
  let attributes := m.registers.attributes
  let m := m.change fun r => { r with attributes := attributes.afterTake }
  let (entered, m) ← m.act (isEntered b attributes)
  if entered then
    let id := m.nextId
    let base := (m.top?.map (·.id)).getD 0
    let repeater := Repeater.start id base b attributes
    let m := { m with nextId := id + 1 }
    let m := m.change fun r => { r with repeaters := repeater :: r.repeaters }
    return m.defer (.iterate id)
  else return m

/-- The place of an item, drawn by the weights. -/
def drawItem (b : Block) : Act Nat :=
  if b.isUniform then Act.draw (·.lessThan b.size)
  else match Weights.ofList b.weights with
    | .ok ws => Act.draw ws.choose
    | .error e => throw (.invalidArgument "block" (.badWeights e))

/-- The place of the item for a repetition: dealt by the order of the block, if it exists, and
drawn otherwise. -/
def chooseItem (b : Block) (order : Option String) : Act Nat := do
  match order with
  | none => drawItem b
  | some name =>
    match ← Act.order fun o => o.next name b.size with
    | some i => return min i (b.size - 1)
    | none => drawItem b

/-- Begins a repetition: the separator, the text after, the item and the text before are pushed so
that they run in the opposite order. The last of them that belongs to the repetition ends it. -/
def beginRepetition (m : Machine s) (r : Repeater) : Except RunError (Machine s) := do
  let a := r.attributes
  let separator := if r.index + 1 < r.count then a.separator else none
  let m ← m.pushAny separator [.suppress r.id] [.restore r.id]
  let m ← m.pushAny a.after [] [.advance r.id]
  let (i, m) ← m.act (chooseItem r.block a.order)
  let item := r.block.items[i]?.map (·.code)
  let m ← m.pushAny item [] (if a.after.isSome then [] else [.advance r.id])
  m.pushAny a.before [] []

/-- Goes on with a repeater: the next repetition begins, or the repeater is removed. -/
def iterate (m : Machine s) (id : Nat) : Except RunError (Machine s) :=
  match m.registers.findRepeater? id with
  | none => return m
  | some r =>
    if r.isFinished then return m.change (·.removeRepeater id)
    else (m.defer (.iterate id)).beginRepetition r

/-! ## Actions -/

/-- Goes on after a tag. -/
def follow (m : Machine s) : Next → Except RunError (Machine s)
  | .stay => return m
  | .run p => m.run p
  | .runThen code sequel => (m.defer (.finish sequel)).pushAny code [] []
  | .leave => return m.leave

/-- Calls a tag. -/
def callTag (m : Machine s) (tag : Tag) (name : Token) (arguments : List Argument) :
    Except RunError (Machine s) := do
  let m := m.moveTo name.position
  let (next, m) ← m.act (tag.perform s m.patternCode ⟨name.text, arguments⟩)
  m.follow next

/-- Calls a subroutine. -/
def callSubroutine (m : Machine s) (called : Subroutine) (name : Token) (arguments : List Argument) :
    Except RunError (Machine s) :=
  let table := (called.parameters.zip arguments).foldl (fun t (p, a) => t.insert p.name a) Named.empty
  let m := (m.moveTo name.position).change fun r => { r with arguments := table :: r.arguments }
  (m.defer .dropArguments).run called.body

/-- Compiles what was printed as a pattern, named after the one that is running. -/
def compilePrinted (m : Machine s) (name : String) : Except RunError (Pattern × Machine s) :=
  let (code, m) := m.takeResult
  match Pattern.compile s!"{m.patternName}#{name}" code with
  | .ok p => return (p, m)
  | .error e => throw (.lex e)

/-- Makes a subroutine known. -/
def define (m : Machine s) (made : Subroutine) : Machine s :=
  m.change fun r => { r with subroutines := r.subroutines.insert made.name made }

/-- Evaluates what was printed, and prints the value unless it is silent. -/
def evaluate (m : Machine s) (isSilent : Bool) : Except RunError (Machine s) :=
  let (text, m) := m.takeResult
  m.perform do
    match Expression.evaluate text with
    | .ok x => unless isSilent do Act.printValue x
    | .error e => throw (.invalidArgument "expression" (.badExpression e))

/-- Runs code for every match in what was printed, the first match first. A text without matches
is printed as it is. -/
def replace (m : Machine s) (regex : Regex) (code : Passage) : Except RunError (Machine s) :=
  let (text, m) := m.takeResult
  match regex.allMatches text with
  | [] => m.perform (Act.print text)
  | found =>
    let m := m.defer (.join text (found.map fun x => (x.start, x.stop)))
    found.reverse.foldlM (fun m x => m.push code true [.enterMatch x] [.leaveMatch]) m

/-- Finishes what a tag began. -/
def finish (m : Machine s) : Sequel → Except RunError (Machine s)
  | .merge => return m.change (·.mergeBranch)
  | .dropComparison => return m.change fun r => { r with comparisons := r.comparisons.tail }
  | .ifNothing size code => if m.output.size = size then m.run code else return m
  | .ifAnything size code => if m.output.size = size then return m else m.run code

/-- Takes an action. -/
def take (m : Machine s) : Deferred → Except RunError (Machine s)
  | .callTag tag name slots =>
    let (texts, m) := m.takeResults (slots.countP (·.isEvaluated))
    m.callTag tag name (Slot.fill slots texts)
  | .callSubroutine called name slots =>
    let (texts, m) := m.takeResults (slots.countP (·.isEvaluated))
    m.callSubroutine called name (Slot.fill slots texts)
  | .dropArguments => return m.change fun r => { r with arguments := r.arguments.tail }
  | .define name parameters position => do
    let (p, m) ← (m.moveTo position).compilePrinted name
    return m.define ⟨name, parameters, p.passage⟩
  | .iterate id => m.iterate id
  | .advance id => return m.change fun r => r.modifyRepeater id (·.advance)
  | .suppress id => return m.change fun r => r.modifyRepeater id (·.suppress)
  | .restore id => return m.change fun r => r.modifyRepeater id (·.restore)
  | .finish sequel => m.finish sequel
  | .runPrinted position => do
    let (p, m) ← (m.moveTo position).compilePrinted "meta"
    m.run p.passage
  | .evaluate isSilent position => (m.moveTo position).evaluate isSilent
  | .replace regex code position => (m.moveTo position).replace regex code
  | .join text spans =>
    let (texts, m) := m.takeResults spans.length
    m.perform (Act.print (Regex.splice text spans texts))
  | .enterMatch x => return m.change fun r => { r with matched := x :: r.matched }
  | .leaveMatch => return m.change fun r => { r with matched := r.matched.tail }

/-- Takes an action after passages have printed to outputs of their own; at once if there are
none. -/
def takeAfter (m : Machine s) (action : Deferred) : List Passage → Except RunError (Machine s)
  | [] => m.take action
  | ps => (m.defer action).runApart ps

/-! ## Tokens -/

/-- Runs the tag of a name. -/
def runTag (m : Machine s) (name : Token) (arguments : List Passage) : Except RunError (Machine s) :=
  let m := m.moveTo name.position
  match TagEntry.find? name.text with
  | none => throw (m.fault (.unknownName .tag name.text))
  | some entry =>
    match entry.signature? arguments.length with
    | none => throw (m.fault (.arity entry.name arguments.length))
    | some called =>
      let (slots, passages) := Slot.prepare s.shortcuts.literals called.takesCode 0 arguments
      m.takeAfter (.callTag called.tag name slots) passages

/-- Runs the call of a subroutine. -/
def runCall (m : Machine s) (name : Token) (arguments : List Passage) : Except RunError (Machine s) :=
  let m := m.moveTo name.position
  match m.registers.subroutines.get? name.text with
  | none => throw (m.fault (.unknownName .subroutine name.text))
  | some called =>
    if called.arity = arguments.length then
      let (slots, passages) := Slot.prepare s.shortcuts.literals called.takesCode 0 arguments
      m.takeAfter (.callSubroutine called name slots) passages
    else throw (m.fault (.arity called.name arguments.length))

/-- Runs a replacer. -/
def runReplacer (m : Machine s) (literal : Token) (arguments : List Passage) :
    Except RunError (Machine s) :=
  let m := m.moveTo literal.position
  match Regex.ofLiteral literal.text with
  | .error message => throw (m.fault (.invalidArgument "regex" (.badRegex message)))
  | .ok regex =>
    match arguments with
    | [input, code] => (m.defer (.replace regex code literal.position)).runApart [input]
    | _ => throw (m.fault (.arity "replacer" arguments.length))

/-- Runs what stands in square brackets. -/
def runBracket (m : Machine s) (opener : Token) : Bracket → Except RunError (Machine s)
  | .definition isMeta name parameters body =>
    if isMeta then (m.defer (.define name parameters opener.position)).runApart [body]
    else return m.define ⟨name, parameters, body⟩
  | .call name arguments => m.runCall name arguments
  | .metapattern body => (m.defer (.runPrinted opener.position)).runApart [body]
  | .replacer literal arguments => m.runReplacer literal arguments
  | .tag name arguments => m.runTag name arguments

/-- Prints what a query finds. One that finds nothing stands for the sentinel, unless queries are
strict. -/
def printFound (s : Setting) : Except QueryError String → Act Unit
  | .ok word => Act.print word
  | .error e => if s.strictQueries then throw (.queryFailed e) else Act.print s.sentinel

/-- Asks for a word and prints it. -/
def query (s : Setting) (text : String) : Act Unit := do
  match Query.ofText text with
  | .error e => throw (.invalidArgument "query" (.badQuery e))
  | .ok q =>
    let r := (← get).registers
    let (found, generator, carriers) := s.vocabulary.answer q r.generator r.carriers
    Act.change fun r => { r with generator := generator, carriers := carriers }
    printFound s found

/-- A draw from a text. -/
def drawFrom (characters : String) (g : Generator) : Char × Generator :=
  let (i, g) := g.lessThan characters.length
  ((characters.toList).getD i ' ', g)

/-- What the letter of an escape stands for. -/
def escaped (g : Generator) : Char → Char × Generator
  | 'n' => ('\n', g)
  | 't' => ('\t', g)
  | 'r' => ('\r', g)
  | 's' => (' ', g)
  | 'd' => drawFrom "0123456789" g
  | 'c' => drawFrom "abcdefghijklmnopqrstuvwxyz" g
  | 'C' => drawFrom "ABCDEFGHIJKLMNOPQRSTUVWXYZ" g
  | 'x' => drawFrom "0123456789abcdef" g
  | 'X' => drawFrom "0123456789ABCDEF" g
  | other => (other, g)

/-- What a letter of an escape stands for, a number of times, behind what stands in reverse. -/
def escapedOnto (letter : Char) : Nat → Generator → List Char → String × Generator
  | 0, g, drawn => (.ofList drawn.reverse, g)
  | n + 1, g, drawn =>
    let (c, g) := escaped g letter
    escapedOnto letter n g (c :: drawn)

/-- Prints articles. -/
def printArticles : Nat → Act Unit
  | 0 => return
  | n + 1 => do
    Act.printArticle
    printArticles n

/-- Prints an escape. -/
def escape (literal : String) : Act Unit := do
  match Escape.ofText? literal with
  | none => throw (.invalidArgument literal .unknownEscape)
  | some ⟨count, .code 'a'⟩ => printArticles count
  | some ⟨count, .code letter⟩ =>
    Act.print (← Act.draw fun g => escapedOnto letter count g [])
  | some ⟨count, .unicode c⟩ => Act.print (.ofList (List.replicate count c))

/-- Runs a token that has just been read. Every token without a meaning of its own is printed. -/
def runToken (m : Machine s) (t : Token) : Except RunError (Machine s) :=
  match t.kind with
  | .leftCurly => do
    let (b, m) ← m.readBlock
    m.enterBlock b
  | .leftSquare => do
    let (b, m) ← m.scan (Bracket.read Bracket.readReplacement)
    m.runBracket t b
  | .leftParen => do
    let ((isSilent, code), m) ← m.scan Scan.expression
    (m.defer (.evaluate isSilent t.position)).runApart [code]
  | .leftAngle => do
    let (code, m) ← m.scan Scan.query
    m.perform (query s code.text)
  | .escape => m.perform (escape t.text)
  | .constant => m.perform (Act.print (constantText t.text))
  | .rightCurly | .rightSquare | .rightParen | .rightAngle =>
    throw (.scope (.unexpected "text" t.text t.position))
  | _ => m.perform (Act.print t.text)

/-- One step. A machine without frames stays as it is. -/
def step (m : Machine s) : Except RunError (Machine s) :=
  match m.frames with
  | [] => return m
  | f :: _ =>
    match f.pre with
    | action :: pre => (m.modifyTop fun f => { f with pre := pre }).take action
    | [] =>
      match f.reader.read? with
      | some (t, reader) =>
        ((m.moveTo t.position).modifyTop fun f => { f with reader := reader }).runToken t
      | none =>
        match f.post with
        | action :: post => (m.modifyTop fun f => { f with post := post }).take action
        | [] => return m.pop

end Machine

end Wordsmith
