import Mathlib.Data.List.Basic
import PodGauges.File.Tree

/-! Looking up a path in two parts. What the steps of a path lead to is found again with more links
to follow, and going on from there spends links of its own: their numbers add up. -/
namespace PodGauges.File.Tree

/-- A name that an entry can have. -/
structure IsName (name : String) : Prop where
  notEmpty : name ≠ ""
  notHere : name ≠ "."
  notUp : name ≠ ".."
  short : name.utf8ByteSize ≤ maxNameBytes

instance (name : String) : Decidable (IsName name) :=
  decidable_of_iff (name ≠ "" ∧ name ≠ "." ∧ name ≠ ".." ∧ name.utf8ByteSize ≤ maxNameBytes)
    ⟨fun ⟨hEmpty, hHere, hUp, hShort⟩ => ⟨hEmpty, hHere, hUp, hShort⟩,
      fun h => ⟨h.notEmpty, h.notHere, h.notUp, h.short⟩⟩

/-- Every link has a target; no link leads to the empty path. -/
def LinksLead (t : Tree) : Prop :=
  ∀ place steps, t.entry? place = some (.link steps) → steps ≠ [] ∧ steps ≠ [""]

/-- Going on behind a link, when a limited number of links may be followed. -/
def follow (t : Tree) : Nat → List String → List String → Except Errno (List String)
  | 0, _, _ => .error .tooManyLinks
  | links + 1, here, steps =>
    if steps.head? = some "" then t.resolve links (if steps.tail = [] then here else []) steps.tail
    else t.resolve links here steps

variable {t : Tree} {here place place' : List String} {links : Nat}

/-- Behind a link the walk goes on at the root if its target is anchored, and where it stands if
not. -/
theorem follow_succ (steps : List String) : t.follow (links + 1) here steps =
    if steps.head? = some "" then t.resolve links (if steps.tail = [] then here else []) steps.tail
    else t.resolve links here steps := rfl

/-- To resolve is to walk, with one link less behind each that is followed. -/
theorem resolve_eq_walk (t : Tree) (links : Nat) : t.resolve links = t.walk (t.follow links) := by
  cases links with
  | zero => rfl
  | succ links =>
      rw [resolve]
      congr 1
      funext here steps
      cases steps with
      | nil => rfl
      | cons name rest =>
          by_cases hName : name = ""
          · subst hName
            rfl
          · simp [follow, hName]

section Walk

variable {onLink onLink' : List String → List String → Except Errno (List String)}

/-- One step succeeds in a directory only. It stays, goes up, or goes to an entry; a link is left to
the way to go on. -/
theorem walk_cons_eq_ok {name : String} {rest : List String} :
    t.walk onLink here (name :: rest) = .ok place ↔ t.entry? here = some .directory ∧
      ((name = "" ∨ name = ".") ∧ t.walk onLink here rest = .ok place ∨
        name = ".." ∧ t.walk onLink here.dropLast rest = .ok place ∨
        IsName name ∧
          ((∃ steps, t.entry? (here ++ [name]) = some (.link steps) ∧
              onLink here (steps ++ rest) = .ok place) ∨
            ∃ entry, t.entry? (here ++ [name]) = some entry ∧ (∀ steps, entry ≠ .link steps) ∧
              t.walk onLink (here ++ [name]) rest = .ok place)) := by
  by_cases hHere : t.entry? here = some .directory
  · rw [walk, if_neg (not_not.mpr hHere)]
    by_cases hStay : name = "" ∨ name = "."
    · have hNot : ¬ IsName name := fun h => hStay.elim h.notEmpty h.notHere
      have hUp : name ≠ ".." := by
        rintro rfl
        simp at hStay
      simp [hHere, hStay, hUp, hNot]
    · rw [if_neg hStay]
      by_cases hUp : name = ".."
      · subst hUp
        have hNot : ¬ IsName ".." := fun h => h.notUp rfl
        simp [hHere, hNot]
      · rw [if_neg hUp]
        -- What is left is a name, if it is not too long.
        by_cases hLong : maxNameBytes < name.utf8ByteSize
        · have hNot : ¬ IsName name := fun h => Nat.not_le_of_lt hLong h.short
          simp [hHere, hStay, hUp, hLong, hNot]
        · obtain ⟨hEmpty, hDot⟩ := not_or.mp hStay
          have hName : IsName name := ⟨hEmpty, hDot, hUp, Nat.le_of_not_lt hLong⟩
          rw [if_neg hLong]
          cases hEntry : t.entry? (here ++ [name]) with
          | none => simp [hStay, hUp]
          | some entry =>
              cases entry <;> simp [hHere, hStay, hUp, hName]
  · rw [walk, if_pos hHere]
    simp [hHere]

/-- Whatever else the ways to go on behind links do, a walk only asks whether they lead to its end.
-/
theorem walk_mono (h : ∀ here steps, onLink here steps = .ok place → onLink' here steps = .ok place)
    {xs : List String} (hWalk : t.walk onLink here xs = .ok place) :
    t.walk onLink' here xs = .ok place := by
  induction xs generalizing here with
  | nil => exact hWalk
  | cons name rest ih =>
      obtain ⟨hHere, hStep⟩ := walk_cons_eq_ok.mp hWalk
      refine walk_cons_eq_ok.mpr ⟨hHere, ?_⟩
      rcases hStep with ⟨hStay, hRest⟩ | ⟨hUp, hRest⟩ | ⟨hName, hEntry⟩
      · exact .inl ⟨hStay, ih hRest⟩
      · exact .inr (.inl ⟨hUp, ih hRest⟩)
      · refine .inr (.inr ⟨hName, ?_⟩)
        rcases hEntry with ⟨steps, hLink, hRest⟩ | ⟨entry, hEntry, hNoLink, hRest⟩
        · exact .inl ⟨steps, hLink, h _ _ hRest⟩
        · exact .inr ⟨entry, hEntry, hNoLink, ih hRest⟩

/-- A walk goes on from where its first part leads, if this is so behind the links. -/
theorem walk_append {ys : List String}
    (h : ∀ here steps rest, (∃ link, t.entry? link = some (.link steps)) →
      onLink here (steps ++ rest) = .ok place → onLink' here (steps ++ rest ++ ys) = .ok place')
    (hEnd : t.walk onLink' place ys = .ok place') {xs : List String}
    (hWalk : t.walk onLink here xs = .ok place) :
    t.walk onLink' here (xs ++ ys) = .ok place' := by
  induction xs generalizing here with
  | nil =>
      cases hWalk
      exact hEnd
  | cons name rest ih =>
      obtain ⟨hHere, hStep⟩ := walk_cons_eq_ok.mp hWalk
      refine walk_cons_eq_ok.mpr ⟨hHere, ?_⟩
      rcases hStep with ⟨hStay, hRest⟩ | ⟨hUp, hRest⟩ | ⟨hName, hEntry⟩
      · exact .inl ⟨hStay, ih hRest⟩
      · exact .inr (.inl ⟨hUp, ih hRest⟩)
      · refine .inr (.inr ⟨hName, ?_⟩)
        rcases hEntry with ⟨steps, hLink, hRest⟩ | ⟨entry, hEntry, hNoLink, hRest⟩
        · have hThen := h _ _ _ ⟨_, hLink⟩ hRest
          rw [List.append_assoc] at hThen
          exact .inl ⟨steps, hLink, hThen⟩
        · exact .inr ⟨entry, hEntry, hNoLink, ih hRest⟩

end Walk

/-! ## Limited links -/

/-- A link more that may be followed makes no difference to a way that has been found. -/
theorem resolve_succ {xs : List String} (h : t.resolve links here xs = .ok place) :
    t.resolve (links + 1) here xs = .ok place := by
  induction links generalizing here xs with
  | zero =>
      rw [resolve_eq_walk] at h ⊢
      exact walk_mono (fun _ _ hFollow => by cases hFollow) h
  | succ links ih =>
      rw [resolve_eq_walk] at h ⊢
      refine walk_mono (fun here steps hFollow => ?_) h
      rw [follow_succ] at hFollow ⊢
      split_ifs at hFollow ⊢ <;> exact ih hFollow

section Names

variable {name : String} {rest : List String} (hHere : t.entry? here = some .directory)
  (hName : IsName name)
include hHere hName

/-- From a directory a name leads to its entry, unless that is a link. -/
theorem resolve_name {entry : Entry} (hEntry : t.entry? (here ++ [name]) = some entry)
    (hNoLink : ∀ steps, entry ≠ .link steps) :
    t.resolve links here (name :: rest) = t.resolve links (here ++ [name]) rest := by
  rw [resolve_eq_walk, walk, if_neg (not_not.mpr hHere),
    if_neg (not_or.mpr ⟨hName.notEmpty, hName.notHere⟩), if_neg hName.notUp,
    if_neg (Nat.not_lt.mpr hName.short), hEntry]
  cases entry with
  | link steps => exact absurd rfl (hNoLink steps)
  | _ => rfl

/-- The name of a link that is not anchored stands for the steps of its target. -/
theorem resolve_link {next : String} {steps : List String}
    (hLink : t.entry? (here ++ [name]) = some (.link (next :: steps))) (hNext : next ≠ "") :
    t.resolve (links + 1) here (name :: rest) = t.resolve links here (next :: steps ++ rest) := by
  rw [resolve_eq_walk, walk, if_neg (not_not.mpr hHere),
    if_neg (not_or.mpr ⟨hName.notEmpty, hName.notHere⟩), if_neg hName.notUp,
    if_neg (Nat.not_lt.mpr hName.short), hLink]
  dsimp only
  rw [follow_succ, if_neg (by simpa using hNext)]

end Names

/-- More links to follow change nothing of what was found. -/
theorem resolve_add {xs : List String} (h : t.resolve links here xs = .ok place) (more : Nat) :
    t.resolve (links + more) here xs = .ok place := by
  induction more with
  | zero => exact h
  | succ more ih => exact resolve_succ ih

/-- Two parts of a path, one after the other, are looked up with the links of both. -/
theorem resolve_append (hLead : t.LinksLead) {xs ys : List String} {more : Nat}
    (hFirst : t.resolve links here xs = .ok place) (hThen : t.resolve more place ys = .ok place') :
    t.resolve (links + more) here (xs ++ ys) = .ok place' := by
  induction links generalizing here xs with
  | zero =>
      rw [Nat.zero_add, resolve_eq_walk] at *
      exact walk_append (fun _ _ _ _ hFollow => by cases hFollow) hThen hFirst
  | succ links ih =>
      have hEnd : t.resolve (links + 1 + more) place ys = .ok place' := by
        rw [Nat.add_comm]
        exact resolve_add hThen _
      rw [resolve_eq_walk] at hEnd ⊢
      rw [resolve_eq_walk] at hFirst
      refine walk_append (fun here steps rest hLink hFollow => ?_) hEnd hFirst
      obtain ⟨link, hLink⟩ := hLink
      obtain ⟨hNil, hEmpty⟩ := hLead link steps hLink
      obtain ⟨name, steps, rfl⟩ := List.exists_cons_of_ne_nil hNil
      rw [Nat.add_right_comm]
      rw [follow_succ] at hFollow ⊢
      by_cases hAnchor : name = ""
      · -- the target is anchored, so that the steps behind it start from the root
        subst hAnchor
        have hSteps : steps ≠ [] := fun h => hEmpty (h ▸ rfl)
        simp [hSteps] at hFollow ⊢
        simpa using ih hFollow
      · simp [hAnchor] at hFollow ⊢
        simpa using ih hFollow

end PodGauges.File.Tree
