import Mathlib
import PodGauges.Config.Target
import PodGauges.Proofs.Except
import PodGauges.Proofs.Number.Decimal
import PodGauges.Proofs.Number.Literal
import PodGauges.Proofs.Text.Separation
import PodGauges.Target

/-! Lists of process numbers in the settings. Each piece between commas is blank or names a process,
or else the list is refused; numbers that are written out in decimal digits are read back. -/
namespace PodGauges.Config

open File Number Processes Text

/-- A piece between commas that denotes a positive number, white space around it ignored. -/
def NamesPid (piece : List Char) (n : Pid) : Prop := 0 < n ∧ Denotes (trim piece) n

/-- What a trimmed text denotes is what it is read as. -/
theorem integer?_trim_eq_some_iff {s : List Char} {n : Int} :
    integer? (trim s) = some n ↔ Denotes (trim s) n := by
  rw [integer?_eq_some_iff, trimBy_trim fun _ => isBlank_of_isLiteralBlank]

/-- A token is taken for a process just if it is a positive number. -/
theorem pid_eq_ok_iff {setting : String} {token : List Char} {n : Pid} :
    pid setting token = .ok n ↔ 0 < n ∧ integer? token = some n := by
  rw [pid]
  constructor
  · intro h
    split at h
    · next hInteger =>
        split at h
        · next hPositive =>
            cases h
            exact ⟨hPositive, hInteger⟩
        · cases h
    · cases h
  · rintro ⟨hPositive, hInteger⟩
    rw [hInteger]
    exact if_pos hPositive

theorem pid_trim_eq_ok_iff {setting : String} {piece : List Char} {n : Pid} :
    pid setting (trim piece) = .ok n ↔ NamesPid piece n := by
  rw [NamesPid, ← integer?_trim_eq_some_iff, pid_eq_ok_iff]

theorem NamesPid.not_blank {piece : List Char} {n : Pid} (h : NamesPid piece n) :
    ¬ Blank piece := by
  intro hBlank
  have hDenotes := h.2
  rw [trim_eq_nil_iff.mpr hBlank] at hDenotes
  cases hDenotes with
  | bare hDigits _ => cases hDigits

/-- A list is accepted just if each of its pieces is blank or names a process; the processes are
then in the order of the pieces. -/
theorem pidList_eq_ok_iff {text : List Char} {pids : List Pid} :
    pidList text = .ok pids ↔ Lists Blank NamesPid (splitAll ',' text) pids := by
  rw [pidList, tokens, mapM_trimmed_eq_ok]
  constructor
  · exact fun h => h.imp (fun _ => id) fun _ _ _ hPid => pid_trim_eq_ok_iff.mp hPid.2
  · exact fun h => h.imp (fun _ => id) fun _ _ _ hPid =>
      ⟨hPid.not_blank, pid_trim_eq_ok_iff.mpr hPid⟩

section Target

variable {dialect : Pattern.Dialect} {settings : Settings} {text : String}
  (hPattern : settings patternSetting = none ∨ settings patternSetting = some "")
  (hList : settings listSetting = some text)
include hPattern hList

end Target

end PodGauges.Config
