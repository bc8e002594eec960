/-!
Letting a message through at most once in a while. Times are of any kind that can be subtracted
and compared.
-/

namespace PodGauges

/-- How long to keep silent, and when a message was let through last. -/
structure Throttle (τ : Type) where
  cooldown : τ
  last : Option τ

namespace Throttle

variable {τ : Type} [Sub τ] [LT τ] [DecidableRel (α := τ) (· < ·)]

/-- A throttle that has let nothing through. -/
def start (cooldown : τ) : Throttle τ := ⟨cooldown, none⟩

/-- Whether a time comes too soon after the last message. -/
def isTooSoon (throttle : Throttle τ) (now : τ) : Bool :=
  match throttle.last with
  | some last => now - last < throttle.cooldown
  | none => false

/-- Whether a message at a time is let through, and the throttle after that. Only messages that
are let through are remembered. -/
def ask (throttle : Throttle τ) (now : τ) : Bool × Throttle τ :=
  if throttle.isTooSoon now then (false, throttle)
  else (true, { throttle with last := some now })

/-- What becomes of messages at given times, and the throttle after them. -/
def askAll (throttle : Throttle τ) : List τ → List Bool × Throttle τ
  | [] => ([], throttle)
  | now :: rest =>
    let (passed, throttle) := throttle.ask now
    let (others, throttle) := throttle.askAll rest
    (passed :: others, throttle)

end Throttle

end PodGauges
