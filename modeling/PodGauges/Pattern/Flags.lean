import PodGauges.Pattern.Source
import PodGauges.Text.Letter

/-!
Flags written inside a pattern, for the whole of it or for one group.
-/

namespace PodGauges.Pattern

/-- The flag of a letter, the one that patterns over text may not have left out. -/
def flagOf? : Char → Option Flags
  | 'i' => some { ignoreCase := true }
  | 'm' => some { multiline := true }
  | 's' => some { dotAll := true }
  | 'x' => some { verbose := true }
  | 'a' => some { ascii := true }
  | 't' => some { template := true }
  | 'u' => some { unicode := true }
  | _ => none

/-- The letter of the flag that patterns over text may not have. -/
def localeLetter : Char := 'L'

/-- The letters that may stand among flags; that of the locale is refused later. -/
def isFlagLetter (c : Char) : Bool := c == localeLetter || (flagOf? c).isSome

/-- Refusal of a token where a flag or the end of the flags should stand. -/
def refuseFlag {α : Type} (token : Token) (what : String) : Reader α :=
  match token with
  | .plain c =>
    Reader.fail (if Text.isLetter c then .unknownFlag else .missingFlag what) 1
  | .escaped _ => Reader.fail (.missingFlag what) 2

/-- The flags turned on from one letter on, and the character that ends them; the count bounds
their number. -/
def flagsOn : Nat → Char → Flags → Reader (Flags × Char)
  | 0, _, _ => Reader.fail .unexpectedEnd 0
  | n + 1, letter, on => do
    let some flag := flagOf? letter | Reader.fail .localeFlag 0
    let on := on.union flag
    if flag.choosesClasses && on.ascii && on.unicode then Reader.fail .conflictingFlags 0
    match ← Reader.take with
    | none => Reader.fail (.missingFlag "-, : or )") 0
    | some (.plain c) =>
      if c = ')' ∨ c = '-' ∨ c = ':' then return (on, c)
      else if isFlagLetter c then flagsOn n c on
      else refuseFlag (.plain c) "-, : or )"
    | some token => refuseFlag token "-, : or )"

def flagsOff : Nat → Char → Flags → Reader Flags
  | 0, _, _ => Reader.fail .unexpectedEnd 0
  | n + 1, letter, off => do
    let flag := (flagOf? letter).getD { ascii := true }
    if flag.choosesClasses then Reader.fail .classFlagOff 0
    let off := off.union flag
    match ← Reader.take with
    | none => Reader.fail (.missingFlag ":") 0
    | some (.plain c) =>
      if c = ':' then return off
      else if isFlagLetter c then flagsOff n c off
      else refuseFlag (.plain c) ":"
    | some token => refuseFlag token ":"

/-- Flags of a group behind the sign that turns them off. -/
def firstFlagOff : Reader Flags := do
  match ← Reader.take with
  | none => Reader.fail (.missingFlag "flag") 0
  | some (.plain c) =>
    if isFlagLetter c then flagsOff ((← get).source.rest.length + 2) c {}
    else refuseFlag (.plain c) "flag"
  | some token => refuseFlag token "flag"

/-- The flags that begin with a given character: those of a group, turned on and off, or none if
they were for the whole pattern. -/
def groupFlags (first : Char) : Reader (Option (Flags × Flags)) := do
  let (on, last) ←
    if first = '-' then pure ({}, '-')
    else flagsOn ((← get).source.rest.length + 2) first {}
  if last = ')' then
    modify fun state => { state with flags := state.flags.union on }
    return none
  if on.template then Reader.fail .globalFlagOn 1
  let off ← if last = '-' then firstFlagOff else pure {}
  if off.template then Reader.fail .globalFlagOff 1
  if on.without off ≠ on then Reader.fail .flagOnAndOff 1
  return some (on, off)

end PodGauges.Pattern
