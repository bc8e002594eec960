import PodGauges.Pattern.Escape
import PodGauges.Pattern.Flags
import PodGauges.Text.Identifier

/-!
The grammar of patterns: alternatives of sequences of items, an item being a character, a set, a
position, a group or the repetition of the item before it. Readers that repeat carry a count: each
round takes a token, so the length of the text bounds the rounds, and the depth of brackets too.
-/

namespace PodGauges.Pattern

/-- One member of a set, or the end of the set, from its first token on. -/
def setPoint (token : Token) : Reader SetItem :=
  match token with
  | .escaped c => setEscape c
  | .plain c => return .point c.toNat

/-- The members of a set up to its closing bracket; a bracket in the first place is a member. -/
def setItems (start : Nat) : Nat → List SetItem → Reader (List SetItem)
  | 0, _ => Reader.failAt .unterminatedSet start
  | n + 1, items => do
    let some first ← Reader.take | Reader.failAt .unterminatedSet start
    if first = .plain ']' ∧ items ≠ [] then return items
    let low ← setPoint first
    if ← Reader.accept '-' then
      let some last ← Reader.take | Reader.failAt .unterminatedSet start
      if last = .plain ']' then return items ++ [low, .point '-'.toNat]
      let high ← setPoint last
      let refuse : Reader SetItem :=
        Reader.fail (.badRange first.text last.text) (first.length + 1 + last.length)
      let range ← match low, high with
        | .point a, .point b => if b < a then refuse else pure (.range a b)
        | _, _ => refuse
      setItems start n (items ++ [range])
    else setItems start n (items ++ [low])

/-- A set, its opening bracket taken. -/
def charSet : Reader Node := do
  let start := (← Reader.position) - 1
  let negated ← Reader.accept '^'
  let items ← setItems start ((← get).source.rest.length + 2) []
  return .set negated items.eraseDups

/-- Repetition counts from here on are refused. -/
def maxRepeat : Nat := 4294967295

/-- A count between braces, which is an integer literal like any other. -/
def repeatCount? (digits : List Char) : Reader (Option Nat) := do
  if digits = [] then return none
  if Number.maxDecimalDigits < digits.length then throw (.tooManyDigits digits.length)
  let count := spelled 10 digits
  if maxRepeat ≤ count then throw .tooManyRepetitions
  return some count

/-- The least and the greatest count behind an opening brace, unless no counts follow it; then
nothing is taken. -/
def braces : Reader (Option (Nat × Option Nat)) := do
  let before := (← get).source
  let here ← Reader.position
  if (← Reader.peek) = some (.plain '\x7d') then return none
  let low ← Reader.takeWhile isDigit before.rest.length.succ
  let high ←
    if ← Reader.accept ',' then Reader.takeWhile isDigit before.rest.length.succ else pure low
  if ← Reader.accept '\x7d' then
    let least := (← repeatCount? low).getD 0
    let most ← repeatCount? high
    if most.any (· < least) then Reader.failAt .leastAboveMost here
    return some (least, most)
  else
    modify fun state => { state with source := before }
    return none

/-- The counts of a repetition mark, its first character taken. -/
def counts? (mark : Char) : Reader (Option (Nat × Option Nat)) :=
  match mark with
  | '?' => return some (0, some 1)
  | '*' => return some (0, none)
  | '+' => return some (1, none)
  | _ => braces

/-- The repetition of the last item. -/
def repeated (mark : Nat) (least : Nat) (most : Option Nat) (items : List Node) :
    Reader (List Node) := do
  match items with
  | [] | .boundary _ :: _ => Reader.failAt .nothingToRepeat mark
  | .loop .. :: _ => Reader.failAt .multipleRepeat mark
  | item :: items =>
    let greed : Greed ← do
      if ← Reader.accept '?' then pure .reluctant
      else if ← Reader.accept '+' then pure .possessive
      else pure .greedy
    return .loop greed least most item :: items

/-- Items in reverse order as one node. -/
def sequenceOf (items : List Node) : Node :=
  match items with
  | [] => .empty
  | last :: items => items.foldl (fun rest item => .seq item rest) last

/-- The members of a node that takes one character out of some. -/
def members? : Node → Option (List SetItem)
  | .point x => some [.point x]
  | .set false items => some items
  | .group none on off body => if on = {} ∧ off = {} then members? body else none
  | _ => none

/-- Alternatives in order. -/
def choiceOf (first : Node) : List Node → Node
  | [] => first
  | second :: rest => .alt first (choiceOf second rest)

/-- Alternatives as one node. Those that all take one character out of some make one set. -/
def alternativesOf (first : Node) (rest : List Node) : Node :=
  if rest.isEmpty then first
  else match (first :: rest).mapM members? with
    | some sets => .set false sets.flatten.eraseDups
    | none => choiceOf first rest

/-- What an opening bracket leads to. -/
inductive Bracketed where
  | node (node : Node)
  | nothing
  | settings

/-- A group name, which has to be an identifier. -/
def groupName (terminator : Char) : Reader (List Char) := do
  let name ← Reader.name terminator "group name"
  if Text.isIdentifier name then return name
  else Reader.fail (.badGroupName (String.ofList name)) (name.length + 1)

def namedGroup (name : List Char) : Reader Nat := do
  match (← get).names.lookup (String.ofList name) with
  | some group => return group
  | none => Reader.fail (.unknownGroupName (String.ofList name)) (name.length + 1)

def namedReference : Reader Node := do
  let name ← groupName ')'
  let group ← namedGroup name
  match ← Reader.closedWidth? group with
  | none => Reader.fail .openGroupReference (name.length + 1)
  | some width =>
    Reader.checkLookBehind group
    return .backReference group width

/-- Group numbers from here on are refused. -/
def maxGroups : Int := 1073741823

/-- The group of a condition, by name or by number; one by number may come later. -/
def conditionGroup : Reader Nat := do
  let name ← Reader.name ')' "group name"
  let group ←
    if Text.isIdentifier name then namedGroup name
    else
      match Number.integer? name with
      | none => Reader.fail (.badGroupName (String.ofList name)) (name.length + 1)
      | some number =>
        if number < 0 then Reader.fail (.badGroupName (String.ofList name)) (name.length + 1)
        if number = 0 then Reader.fail .badGroupNumber (name.length + 1)
        if maxGroups ≤ number then
          Reader.fail (.invalidGroupReference number) (name.length + 1)
        let position := (← Reader.position) - name.length - 1
        modify fun state =>
          if (state.conditions.lookup number.toNat).isSome then state
          else { state with conditions := state.conditions ++ [(number.toNat, position)] }
        pure number.toNat
  Reader.checkLookBehind group
  return group

/-- Takes all up to the bracket that closes a comment. -/
def skipComment (start : Nat) : Nat → Reader Unit
  | 0 => Reader.failAt .unterminatedComment start
  | n + 1 => do
    match ← Reader.peek with
    | none => Reader.failAt .unterminatedComment start
    | some token =>
      let _ ← Reader.take
      if token = .plain ')' then return () else skipComment start n

def skipLine : Nat → Reader Unit
  | 0 => return ()
  | n + 1 => do
    match ← Reader.take with
    | none => return ()
    | some token => if token = .plain '\n' then return () else skipLine n

/-- The blanks that verbose patterns ignore. -/
def isIgnoredBlank (c : Char) : Bool := c == ' ' || ('\t' ≤ c && c ≤ '\r')

/-- The bracket that closes what began at a position. -/
def closing (start : Nat) : Reader Unit := do
  if !(← Reader.accept ')') then Reader.failAt .unterminatedGroup start

/-- How the inside of a bracket is read, given whether blanks are ignored there: as alternatives,
or as the single sequence that a branch of a condition is. -/
structure Inside where
  alternatives : Bool → Reader Node
  sequence : Bool → Reader Node

def captured (inside : Inside) (name : Option (List Char)) (verbose : Bool) (start : Nat) :
    Reader Node := do
  let group ← Reader.openGroup name
  let body ← inside.alternatives verbose
  closing start
  Reader.closeGroup group body
  return .group (some group) {} {} body

/-- A group that is not numbered, with flags of its own. -/
def enclosed (inside : Inside) (on off : Flags) (verbose : Bool) (start : Nat) :
    Reader Node := do
  let body ← inside.alternatives ((verbose || on.verbose) && !off.verbose)
  closing start
  return .group none on off body

/-- A condition on what follows, or on what comes before. -/
def looking (inside : Inside) (ahead negated verbose : Bool) (start : Nat) : Reader Node := do
  let outside := (← get).lookBehindGroups
  if !ahead && outside.isNone then
    modify fun state => { state with lookBehindGroups := some state.widths.length }
  let body ← inside.alternatives verbose
  if !ahead && outside.isNone then
    modify fun state => { state with lookBehindGroups := none }
  closing start
  return .look ahead negated body

/-- A look-behind, the first character of its mark taken. -/
def lookingBehind (inside : Inside) (verbose : Bool) (start : Nat) : Reader Node := do
  let some token ← Reader.take | Reader.fail .unexpectedEnd 0
  if token = .plain '=' then looking inside false false verbose start
  else if token = .plain '!' then looking inside false true verbose start
  else Reader.fail (.unknownExtension ("<" ++ token.text)) (token.length + 2)

/-- A named group or a reference to one, the first character of its mark taken. -/
def named (inside : Inside) (verbose : Bool) (start : Nat) : Reader Node := do
  if ← Reader.accept '<' then
    let name ← groupName '>'
    captured inside (some name) verbose start
  else if ← Reader.accept '=' then namedReference
  else
    let some token ← Reader.take | Reader.fail .unexpectedEnd 0
    Reader.fail (.unknownExtension ("P" ++ token.text)) (token.length + 2)

/-- A choice between two branches by whether a group took part, its opening bracket taken. -/
def conditional (inside : Inside) (verbose : Bool) (start : Nat) : Reader Node := do
  let group ← conditionGroup
  let present ← inside.sequence verbose
  if ← Reader.accept '|' then
    let absent ← inside.sequence verbose
    if (← Reader.peek) = some (.plain '|') then Reader.fail .thirdBranch 0
    closing start
    return .conditional group present absent
  else
    closing start
    return .conditional group present .empty

/-- What follows an opening bracket and a question mark, from its first token on. -/
def extension (inside : Inside) (atStart verbose : Bool) (start : Nat) (c : Char) :
    Reader Bracketed := do
  match c with
  | 'P' => return .node (← named inside verbose start)
  | ':' => return .node (← enclosed inside {} {} verbose start)
  | '#' =>
    skipComment start ((← get).source.rest.length + 2)
    return .nothing
  | '=' => return .node (← looking inside true false verbose start)
  | '!' => return .node (← looking inside true true verbose start)
  | '<' => return .node (← lookingBehind inside verbose start)
  | '(' => return .node (← conditional inside verbose start)
  | '>' =>
    let body ← inside.alternatives verbose
    closing start
    return .node (.atomic body)
  | _ =>
    if c = '-' ∨ isFlagLetter c then
      match ← groupFlags c with
      | none => if atStart then return .settings else Reader.failAt .misplacedGlobalFlags start
      | some (on, off) => return .node (← enclosed inside on off verbose start)
    else Reader.fail (.unknownExtension (String.singleton c)) 2

/-- What follows an opening bracket that was taken at a position. -/
def bracketed (inside : Inside) (atStart verbose : Bool) (start : Nat) : Reader Bracketed := do
  if ← Reader.accept '?' then
    let some token ← Reader.take | Reader.fail .unexpectedEnd 0
    match token with
    | .escaped _ => Reader.fail (.unknownExtension token.text) 3
    | .plain c => extension inside atStart verbose start c
  else return .node (← captured inside none verbose start)

/-- A sequence, with the items before the next token in reverse order; the count bounds their
number. Flags for the whole pattern may stand only at its very beginning. -/
def sequence (inside : Inside) (first : Bool) : Nat → Bool → List Node → Reader Node
  | 0, _, _ => Reader.fail .unexpectedEnd 0
  | n + 1, verbose, items => do
    let here ← Reader.position
    match ← Reader.peek with
    | none => return sequenceOf items
    | some (.escaped c) =>
      let _ ← Reader.take
      let item ← escape c
      sequence inside first n verbose (item :: items)
    | some (.plain c) =>
      if c = '|' ∨ c = ')' then return sequenceOf items
      let _ ← Reader.take
      if verbose && isIgnoredBlank c then sequence inside first n verbose items
      else if verbose && c == '#' then
        skipLine ((← get).source.rest.length + 2)
        sequence inside first n verbose items
      else if c = '(' then
        match ← bracketed inside (first && items.isEmpty) verbose here with
        | .node node => sequence inside first n verbose (node :: items)
        | .nothing => sequence inside first n verbose items
        | .settings =>
          let state ← get
          sequence inside first n state.flags.verbose items
      else
        let items ← extended c here items
        sequence inside first n verbose items
where
  /-- The items with what one character adds to them or does to the last. -/
  extended (c : Char) (here : Nat) (items : List Node) : Reader (List Node) := do
    match c with
    | '[' => return (← charSet) :: items
    | '.' => return .any :: items
    | '^' => return .boundary .lineStart :: items
    | '$' => return .boundary .lineEnd :: items
    | _ =>
      if c = '?' ∨ c = '*' ∨ c = '+' ∨ c = '\x7b' then
        match ← counts? c with
        | some (least, most) => repeated here least most items
        | none => return .point c.toNat :: items
      else return .point c.toNat :: items

/-- The alternatives behind the first; on the outermost level flags for the whole pattern that were
read meanwhile hold for them. -/
def moreAlternatives (inside : Inside) (nested : Bool) (length : Nat) (verbose : Bool) :
    Nat → Reader (List Node)
  | 0 => return []
  | n + 1 => do
    if ← Reader.accept '|' then
      let state ← get
      let verbose := if nested then verbose else state.flags.verbose
      let next ← sequence inside false length verbose []
      let rest ← moreAlternatives inside nested length verbose n
      return next :: rest
    else return []

/-- Alternatives up to a closing bracket or the end. -/
def alternatives (inside : Inside) (nested : Bool) (length : Nat) (verbose : Bool) :
    Reader Node := do
  let first ← sequence inside (!nested) length verbose []
  let rest ← moreAlternatives inside nested length verbose length
  return alternativesOf first rest

/-- The inside of brackets up to a depth, in a text of a length. -/
def insideOf (length : Nat) : Nat → Inside
  | 0 => ⟨fun _ => Reader.fail .unexpectedEnd 0, fun _ => Reader.fail .unexpectedEnd 0⟩
  | depth + 1 =>
    let inside := insideOf length depth
    ⟨alternatives inside true length, fun verbose => sequence inside false length verbose []⟩

/-- The name of a repetition in the wording of faults. -/
def Greed.operator : Greed → String
  | .greedy => "MAX_REPEAT"
  | .reluctant => "MIN_REPEAT"
  | .possessive => "POSSESSIVE_REPEAT"

/-- The widest look-behind. -/
def maxLookBehind : Nat := 4294967295

/-- The first part of a pattern that reads well and still cannot be used: a repetition under the
template flag, or a look-behind whose width is not fixed. -/
def Node.fault? (flags : Flags) : Node → Option Fault
  | .empty | .point _ | .any | .set .. | .boundary _ | .backReference .. => none
  | .seq a b | .alt a b | .conditional _ a b => (a.fault? flags).or (b.fault? flags)
  | .group _ on off body => body.fault? (flags.within on off)
  | .loop greed _ _ body =>
    if flags.template then some (.templateLoop greed.operator) else body.fault? flags
  | .look ahead _ body =>
    if ahead then body.fault? flags
    else if maxLookBehind < body.width.1 then some .lookBehindTooWide
    else if body.width.1 ≠ body.width.2 then some .lookBehindWidth
    else body.fault? flags
  | .atomic body => body.fault? flags

/-- A whole pattern, with the flags that hold throughout. -/
def wholePattern (length : Nat) : Reader (Flags × Node) := do
  let root ← alternatives (insideOf (length + 2) (length + 2)) false (length + 2) false
  let flags := (← get).flags
  if flags.ascii && flags.unicode then throw .twoClassFlags
  if (← Reader.peek).isSome then Reader.fail .unbalancedParenthesis 0
  let count ← Reader.groupCount
  match (← get).conditions.find? fun condition => count ≤ condition.1 with
  | some (group, position) => Reader.failAt (.invalidGroupReference group) position
  | none =>
    return ({ flags with unicode := !flags.ascii }, root)

end PodGauges.Pattern

namespace PodGauges

/-- A pattern that has been read. -/
structure Pattern where
  text : String
  flags : Pattern.Flags
  root : Pattern.Node

/-- The pattern that a text spells in a dialect. -/
def Pattern.ofString (dialect : Pattern.Dialect) (text : String) :
    Except Pattern.Error Pattern := do
  let chars := text.toList
  if dialect.isTooDeep chars then throw .tooDeep
  let source ← Pattern.Source.load chars 0
  let ((flags, root), _) ← (Pattern.wholePattern chars.length).run (.start dialect source)
  match root.fault? flags with
  | some fault => .error (.malformed fault none)
  | none => .ok ⟨text, flags, root⟩

end PodGauges
