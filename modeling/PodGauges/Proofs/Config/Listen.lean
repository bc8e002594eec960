import Mathlib
import PodGauges.Config.Listen
import PodGauges.Proofs.Number.Decimal
import PodGauges.Proofs.Number.Literal
import PodGauges.Proofs.Text.Separation

/-! Which texts are addresses to listen at. A host in brackets is taken as it stands between them,
whatever it is; a bare host has no colons and is not empty. -/
namespace PodGauges.Config.Listen

open Number Text

/-! ## The grammar of addresses -/

/-- A text in square brackets. -/
def IsBracketed (written : List Char) : Prop := ∃ host, written = '[' :: (host ++ [']'])

/-- How a host may be written in front of the colon. -/
inductive WrittenHost (host : List Char) : List Char → Prop where
  | bracketed : WrittenHost host ('[' :: (host ++ [']']))
  | bare (hNil : host ≠ []) (hColon : ':' ∉ host) (hBare : ¬ IsBracketed host) :
      WrittenHost host host

/-- A text spells an address: its host and the literal of its port, parted by the last colon. -/
inductive Spells (text : List Char) (listen : Listen) : Prop where
  | intro {written port : List Char} (hText : trim text = written ++ ':' :: port)
      (hColon : ':' ∉ port) (hHost : WrittenHost listen.host.toList written)
      (hPort : Denotes (trimBy isLiteralBlank port) listen.port) (hMax : listen.port ≤ 65535)

/-- A text that begins and ends like one in brackets is one in brackets, as one bracket is not the
other. -/
theorem isBracketed_iff {written : List Char} :
    written.head? = some '[' ∧ written.getLast? = some ']' ↔ IsBracketed written := by
  constructor
  · rintro ⟨hHead, hLast⟩
    obtain ⟨front, rfl⟩ := List.getLast?_eq_some_iff.mp hLast
    cases front with
    | nil => exact absurd hHead (by decide)
    | cons c host =>
        cases hHead
        exact ⟨host, rfl⟩
  · rintro ⟨host, rfl⟩
    exact ⟨rfl, by rw [← List.cons_append, List.getLast?_concat]⟩

/-- Between brackets a host may hold anything. -/
theorem host?_bracketed (host : List Char) : host? ('[' :: (host ++ [']'])) = some host := by
  rw [host?, if_pos (isBracketed_iff.mpr ⟨host, rfl⟩), List.drop_one, List.tail_cons,
    List.dropLast_concat]

/-- Without brackets a host may hold anything but a colon. -/
theorem host?_bare {host : List Char} (h : ¬ IsBracketed host) :
    host? host = if ':' ∈ host then none else some host := by
  rw [host?, if_neg (mt isBracketed_iff.mp h)]

/-- A host is taken just if it is written in one of the two ways. -/
theorem host?_eq_some_iff {written host : List Char} (hNil : written ≠ []) :
    host? written = some host ↔ WrittenHost host written := by
  constructor
  · intro h
    by_cases hBrackets : IsBracketed written
    · obtain ⟨inside, rfl⟩ := hBrackets
      rw [host?_bracketed] at h
      cases h
      exact .bracketed
    · rw [host?_bare hBrackets] at h
      split at h
      · cases h
      · next hColon =>
          cases h
          exact .bare hNil hColon hBrackets
  · intro h
    cases h with
    | bracketed => exact host?_bracketed host
    | bare _ hColon hBare => rw [host?_bare hBare, if_neg hColon]

theorem WrittenHost.ne_nil {host written : List Char} (h : WrittenHost host written) :
    written ≠ [] := by
  cases h with
  | bracketed => exact List.cons_ne_nil _ _
  | bare hNil _ _ => exact hNil

/-- The only way to write a host that is empty is a pair of brackets. -/
theorem WrittenHost.eq_nil_iff {host written : List Char} (h : WrittenHost host written) :
    host = [] ↔ written = ['[', ']'] := by
  cases h with
  | bracketed => simp
  | bare hNil _ hBare => exact iff_of_false hNil fun hEmpty => hBare ⟨[], hEmpty⟩

/-- The addresses that are taken are those that are spelled. -/
theorem ofText_eq_ok_iff {text : List Char} {listen : Listen} :
    ofText text = .ok listen ↔ Spells text listen := by
  constructor
  · intro h
    unfold ofText at h
    dsimp only at h
    split at h
    · cases h
    · cases h
    · next written port hNil hCut =>
        split at h
        · cases h
        · next host hHost =>
            split at h
            · cases h
            · next n hn =>
                split at h
                · next hRange =>
                    cases h
                    obtain ⟨hText, hColon⟩ := splitLast?_eq_some_iff.mp hCut
                    obtain ⟨hLow, hHigh⟩ := hRange
                    have hMax : maxPort = 65535 := rfl
                    refine ⟨hText, hColon, ?_, ?_, ?_⟩
                    · rw [String.toList_ofList]
                      exact (host?_eq_some_iff hNil).mp hHost
                    · rw [Int.toNat_of_nonneg hLow]
                      exact integer?_eq_some_iff.mp hn
                    · dsimp only
                      omega
                · cases h
  · rintro ⟨hText, hColon, hHost, hPort, hMax⟩
    -- A host is written with at least one character, which is what the first check asks for.
    have hNil := hHost.ne_nil
    have hTaken := (host?_eq_some_iff hNil).mpr hHost
    have hCut := splitLast?_eq_some_iff.mpr ⟨hText, hColon⟩
    have hRange : (0 : Int) ≤ listen.port ∧ (listen.port : Int) ≤ maxPort := by
      have hMaxPort : maxPort = 65535 := rfl
      omega
    obtain ⟨c, rest, rfl⟩ := List.exists_cons_of_ne_nil hNil
    rw [ofText, hCut]
    dsimp only
    rw [hTaken]
    dsimp only
    rw [integer?_eq_some_iff.mpr hPort]
    dsimp only
    rw [if_pos hRange, String.ofList_toList, Int.toNat_natCast]

/-- A text that is refused is reported, trimmed, as a fault of the address. -/
theorem ofText_eq_error {text : List Char} {fault : Fault} (h : ofText text = .error fault) :
    ∃ reason, fault = .listen reason (String.ofList (trim text)) := by
  unfold ofText at h
  dsimp only at h
  split at h
  · cases h
    exact ⟨_, rfl⟩
  · cases h
    exact ⟨_, rfl⟩
  · split at h
    · cases h
      exact ⟨_, rfl⟩
    · split at h
      · cases h
        exact ⟨_, rfl⟩
      · split at h
        · cases h
        · cases h
          exact ⟨_, rfl⟩

/-- A text is taken just if it spells an address, and else it is reported. The port of an address is
in range, and a host with colons was written in brackets; only empty brackets give an empty host. -/
theorem ofText_accepts (text : List Char) :
    (∀ listen, ofText text = .ok listen ↔ Spells text listen) ∧
    ((∃ listen, ofText text = .ok listen) ∨
      ∃ reason, ofText text = .error (.listen reason (String.ofList (trim text)))) ∧
    ∀ listen, ofText text = .ok listen →
      listen.port ≤ 65535 ∧
      (':' ∈ listen.host.toList →
        ∃ port, trim text = '[' :: (listen.host.toList ++ [']']) ++ ':' :: port) ∧
      (listen.host = "" ↔ ∃ port, trim text = ['[', ']'] ++ ':' :: port ∧ ':' ∉ port) := by
  refine ⟨fun listen => ofText_eq_ok_iff, ?_, fun listen hListen => ?_⟩
  · cases hOutcome : ofText text with
    | ok listen => exact .inl ⟨listen, rfl⟩
    | error fault =>
        obtain ⟨reason, rfl⟩ := ofText_eq_error hOutcome
        exact .inr ⟨reason, rfl⟩
  · obtain ⟨hText, hColon, hHost, -, hMax⟩ := ofText_eq_ok_iff.mp hListen
    refine ⟨hMax, fun hMem => ?_, ?_⟩
    · cases hHost with
      | bracketed => exact ⟨_, hText⟩
      | bare _ hNone _ => exact absurd hMem hNone
    · rw [← String.toList_eq_nil_iff, hHost.eq_nil_iff]
      constructor
      · rintro rfl
        exact ⟨_, hText, hColon⟩
      · rintro ⟨other, hOther, hNone⟩
        have hCut := splitLast?_eq_some_iff.mpr ⟨hText, hColon⟩
        rw [splitLast?_eq_some_iff.mpr ⟨hOther, hNone⟩] at hCut
        cases hCut
        rfl

/-- An empty pair of brackets gets past the check for a host that is not there. -/
theorem ofText_emptyBrackets :
    ofText "[]:9100".toList = .ok ⟨"", 9100⟩ ∧
    ofText ":9100".toList = .error (.listen .noHostOrPort ":9100") ∧
    ¬ ∀ text listen, ofText text = .ok listen → listen.host ≠ "" := by
  have hTaken : ofText "[]:9100".toList = .ok ⟨"", 9100⟩ := by rfl
  exact ⟨hTaken, by rfl, fun h => h _ _ hTaken rfl⟩

/-! ## Reading back what was written -/

/-- A host that can be told from the port without brackets around it. -/
structure IsBare (host : String) : Prop where
  ne_empty : host ≠ ""
  no_colon : ':' ∉ host.toList
  no_blank : ∀ c ∈ host.toList.head?, ¬ isBlank c
  not_bracketed : ¬ IsBracketed host.toList

theorem toList_text (listen : Listen) :
    listen.text.toList = listen.host.toList ++ ':' :: Nat.toDigits 10 listen.port := by
  simp [text, toString, Nat.repr]

/-- A host in front of a colon and a port is read with it, for the last colon is the one that
counts. -/
theorem ofText_of_writtenHost {host : String} {port : Nat} {written : List Char}
    (hHost : WrittenHost host.toList written) (hStart : ∀ c ∈ written.head?, ¬ isBlank c)
    (hPort : port ≤ 65535) :
    ofText (written ++ ':' :: Nat.toDigits 10 port) = .ok ⟨host, port⟩ := by
  have hDigit : ∀ c ∈ Nat.toDigits 10 port, c.isDigit := fun _ h => isDigit_of_mem_toDigits h
  have hShort : port < 10 ^ maxDecimalDigits :=
    calc port < 10 ^ 5 := by omega
      _ ≤ 10 ^ maxDecimalDigits := Nat.pow_le_pow_right (by decide) (by decide)
  refine ofText_eq_ok_iff.mpr ⟨?_, not_mem_of_isDigit hDigit (by decide), hHost,
    integer?_eq_some_iff.mp (integer?_toDigits hShort), hPort⟩
  -- The digits at the end are as little white space as the beginning.
  refine trimBy_eq_self_iff.mpr ⟨?_, fun c hc => ?_⟩
  · rwa [List.head?_append_of_ne_nil _ hHost.ne_nil]
  · rw [List.append_cons, List.getLast?_append_of_ne_nil _ Nat.toDigits_ne_nil] at hc
    exact not_isBlank_of_isDigit hDigit (List.mem_of_getLast? hc)

/-- White space around a text has no say in what it is read as. -/
theorem ofText_surrounded {front back : List Char} (hFront : Blank front) (hBack : Blank back)
    (text : List Char) : ofText (front ++ text ++ back) = ofText text := by
  have hTrim : trim (front ++ text ++ back) = trim text := trimBy_surrounded hFront hBack text
  unfold ofText
  rw [hTrim]

/-- An address is read back from its text, with any host in brackets or a bare one without them,
whatever white space stands around it. -/
theorem ofText_text (host : String) {port : Nat} (hPort : port ≤ 65535) {front back : List Char}
    (hFront : Blank front) (hBack : Blank back) :
    ofText (front ++ (text ⟨"[" ++ host ++ "]", port⟩).toList ++ back) = .ok ⟨host, port⟩ ∧
    (IsBare host → ofText (front ++ (text ⟨host, port⟩).toList ++ back) = .ok ⟨host, port⟩) ∧
    ∀ raw, ofText (front ++ raw ++ back) = ofText raw := by
  simp only [ofText_surrounded hFront hBack, toList_text]
  have hBrackets : ("[" ++ host ++ "]").toList = '[' :: (host.toList ++ [']']) := by
    simp
  refine ⟨?_, fun h => ?_, fun _ => trivial⟩
  · rw [hBrackets]
    exact ofText_of_writtenHost .bracketed (fun c hc => by cases hc; decide) hPort
  · have hNil : host.toList ≠ [] := mt String.toList_eq_nil_iff.mp h.ne_empty
    exact ofText_of_writtenHost (.bare hNil h.no_colon h.not_bracketed) h.no_blank hPort

/-- A host that looks like the end of an address is read back from its brackets, and so is one that
looks like a beginning without any. -/
theorem ofText_text_deceptiveHosts :
    (65535 ≤ 65535 ∧ Blank ['\t', '\u3000'] ∧ Blank ['\n'] ∧ IsBare "[pod 1 ") ∧
    ofText "\t\u3000[fe80::1]:80 ]:65535\n".toList = .ok ⟨"fe80::1]:80 ", 65535⟩ ∧
    ofText "\t\u3000[pod 1 :65535\n".toList = .ok ⟨"[pod 1 ", 65535⟩ := by
  have hFront : Blank ['\t', '\u3000'] := by decide
  have hBack : Blank ['\n'] := by decide
  have hBare : IsBare "[pod 1 " :=
    ⟨by decide, by decide, by rintro c ⟨⟩; decide, mt isBracketed_iff.mpr (by decide)⟩
  exact ⟨⟨le_refl _, hFront, hBack, hBare⟩,
    (ofText_text "fe80::1]:80 " (le_refl 65535) hFront hBack).1,
    (ofText_text "[pod 1 " (le_refl 65535) hFront hBack).2.1 hBare⟩

end PodGauges.Config.Listen
