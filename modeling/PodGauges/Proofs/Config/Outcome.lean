import PodGauges.Config
import PodGauges.Proofs.Pattern.Refusal

/-! How the reading of settings ends: with a configuration, with a fault of a setting, or with an
error of the reader of patterns that none of these covers. -/
namespace PodGauges.Config

/-- Settings with a pattern that is refused without being malformed. They are read up to it only if
there is an address to listen at. -/
structure Escapes (dialect : Pattern.Dialect) (settings : Settings) (error : Pattern.Error) :
    Prop where
  listen : ∃ listen,
    Listen.ofText ((settings "EXPORTER_LISTEN").getD "0.0.0.0:9100").toList = .ok listen
  pattern : ∃ text, settings patternSetting = some text ∧ text ≠ "" ∧
    Pattern.ofString dialect text = .error error ∧ Pattern.Overruns dialect text.toList error

variable {dialect : Pattern.Dialect}

/-- A pattern is passed on as unusable just if it overruns a limit of the reader. -/
theorem patternTarget_eq_unusable {text : String} {error : Pattern.Error} :
    patternTarget dialect text = .error (.unusablePattern error) ↔
      Pattern.ofString dialect text = .error error ∧
        Pattern.Overruns dialect text.toList error := by
  unfold patternTarget
  constructor
  · intro h
    split at h
    · cases h
    · cases h
    · next reason hMalformed hRead =>
        cases h
        rcases Pattern.malformed_or_overruns_of_ofString hRead with ⟨fault, position, hFault⟩ | h
        · exact absurd hFault (hMalformed fault position)
        · exact ⟨hRead, h⟩
  · rintro ⟨hRead, hOverruns⟩
    rw [hRead]
    cases hOverruns with
    | excess hExcess => cases hExcess <;> rfl
    | tooDeep => rfl

/-- Only a pattern makes a target unusable, and only one that is set and not empty. -/
theorem target?_eq_unusable {settings : Settings} {error : Pattern.Error} :
    target? dialect settings = .error (.unusablePattern error) ↔
      ∃ text, settings patternSetting = some text ∧ text ≠ "" ∧
        Pattern.ofString dialect text = .error error ∧
          Pattern.Overruns dialect text.toList error := by
  have hPids : (pidTarget? settings).mapError Error.invalid ≠
      .error (.unusablePattern error) := by
    cases pidTarget? settings <;> exact fun h => nomatch h
  unfold target?
  split
  · next hSetting =>
      refine iff_of_false hPids ?_
      rintro ⟨text, hText, -⟩
      rw [hSetting] at hText
      cases hText
  · next hSetting =>
      refine iff_of_false hPids ?_
      rintro ⟨text, hText, hEmpty, -⟩
      rw [hSetting] at hText
      exact hEmpty (Option.some.inj hText).symm
  · next text hEmpty hSetting =>
      have hMap : (patternTarget dialect text).map some = .error (.unusablePattern error) ↔
          patternTarget dialect text = .error (.unusablePattern error) := by
        cases patternTarget dialect text <;> simp [Except.map]
      rw [hMap, patternTarget_eq_unusable]
      constructor
      · exact fun h => ⟨text, hSetting, hEmpty, h⟩
      · rintro ⟨other, hOther, -, h⟩
        rw [hSetting] at hOther
        cases hOther
        exact h

/-- Settings end in an error that is no fault just if they escape. -/
theorem ofSettings_eq_unusable {settings : Settings} {error : Pattern.Error} :
    (ofSettings dialect settings).1 = .error (.unusablePattern error) ↔
      Escapes dialect settings error := by
  have hEscapes : Escapes dialect settings error ↔
      (∃ listen, Listen.ofText
        ((settings "EXPORTER_LISTEN").getD "0.0.0.0:9100").toList = .ok listen) ∧
      target? dialect settings = .error (.unusablePattern error) :=
    ⟨fun h => ⟨h.listen, target?_eq_unusable.mpr h.pattern⟩,
      fun h => ⟨h.1, target?_eq_unusable.mp h.2⟩⟩
  rw [hEscapes, ofSettings]
  cases Listen.ofText ((settings "EXPORTER_LISTEN").getD "0.0.0.0:9100").toList with
  | error fault => simp
  | ok listen =>
      cases target? dialect settings with
      | error reason => simp
      | ok target =>
          dsimp only
          refine iff_of_false ?_ fun h => nomatch h.2
          cases complete settings listen target <;> exact fun h => nomatch h

/-- The settings give a configuration or are refused with a fault, unless they escape. That happens
only where the pattern holds a number beyond a limit, or two flags that exclude each other, or where
its brackets are nested too deep. -/
theorem ofSettings_outcome (dialect : Pattern.Dialect) (settings : Settings) :
    (∀ error, (ofSettings dialect settings).1 = .error (.unusablePattern error) ↔
      Escapes dialect settings error) ∧
    ((∃ config, (ofSettings dialect settings).1 = .ok config) ∨
      (∃ fault, (ofSettings dialect settings).1 = .error (.invalid fault)) ∨
      ∃ text error, settings patternSetting = some text ∧
        Pattern.Overruns dialect text.toList error ∧
        (ofSettings dialect settings).1 = .error (.unusablePattern error)) := by
  refine ⟨fun error => ofSettings_eq_unusable, ?_⟩
  cases hOutcome : (ofSettings dialect settings).1 with
  | ok config => exact .inl ⟨config, rfl⟩
  | error reason =>
      cases reason with
      | invalid fault => exact .inr (.inl ⟨fault, rfl⟩)
      | unusablePattern error =>
          obtain ⟨text, hText, -, -, hOverruns⟩ := (ofSettings_eq_unusable.mp hOutcome).pattern
          exact .inr (.inr ⟨text, error, hText, hOverruns, rfl⟩)

/-- The error of the reader of patterns that an outcome passes on. -/
def escaped? : Except Error Config → Option Pattern.Error
  | .error (.unusablePattern error) => some error
  | _ => none

theorem eq_of_escaped? {outcome : Except Error Config} {error : Pattern.Error}
    (h : escaped? outcome = some error) : outcome = .error (.unusablePattern error) := by
  unfold escaped? at h
  split at h <;> cases h
  rfl

/-- Nothing is set but the pattern, which asks for as many repetitions as cannot be counted. -/
def countlessPattern : Settings
  | "TARGET_PID_REGEXP" => some "a\x7b4294967295\x7d"
  | _ => none

/-- This pattern is neither taken nor refused with a fault. -/
theorem ofSettings_countlessPattern :
    (ofSettings .ascii countlessPattern).1 = .error (.unusablePattern .tooManyRepetitions) ∧
    ¬ ((∃ config, (ofSettings .ascii countlessPattern).1 = .ok config) ∨
      ∃ fault, (ofSettings .ascii countlessPattern).1 = .error (.invalid fault)) := by
  have hOutcome : (ofSettings .ascii countlessPattern).1 =
      .error (.unusablePattern .tooManyRepetitions) := eq_of_escaped? (by decide +kernel)
  refine ⟨hOutcome, ?_⟩
  rw [hOutcome]
  rintro (⟨config, h⟩ | ⟨fault, h⟩) <;> cases h

end PodGauges.Config
