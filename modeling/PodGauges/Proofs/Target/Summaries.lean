import Mathlib.Algebra.Order.Group.Unbundled.Basic
import Mathlib.Algebra.Order.Group.Int
import Mathlib.Data.List.Induction
import PodGauges.Target

/-! The summaries of searches for a pattern. A search that runs to its end asks the throttle, with a
reading of the clock that was taken before. Nothing is assumed of the readings, so that callers who
have read the clock may ask the throttle in any order; yet any two summaries are the cooldown apart,
and a search is silent only if the last summary is more recent than that. -/
namespace PodGauges.Target

open File Processes

/-! ## Requests -/

/-- A request to a resolver: the target, the files as they are, and what the clock showed before the
throttle is asked. -/
structure Request (τ : Type) where
  target : Target
  tree : Tree
  clock : τ

/-- A request searches for a pattern and runs to its end, with what it finds. -/
structure Request.Completes {τ : Type} (request : Request τ) (root : Path) (pattern : Pattern)
    (pids : List Pid) : Prop where
  target : request.target = .matching pattern
  sought : sought pattern.search request.tree root = .ok pids

section Throttled

variable {τ : Type} [Sub τ] [LT τ] [DecidableRel (α := τ) (· < ·)]

namespace Request

variable (request : Request τ) (root : Path) (throttle : Throttle τ)

/-- What a request finds when the throttle is in some state. -/
def outcome : Except IoError (Found τ) :=
  request.target.find request.tree root throttle request.clock

/-- The throttle after a request; one that fails leaves it as it is. -/
def throttleAfter : Throttle τ :=
  match request.outcome root throttle with
  | .ok found => found.throttle
  | .error _ => throttle

/-- What is logged by a request; one that fails logs nothing. -/
def log : List Log.Record :=
  match request.outcome root throttle with
  | .ok found => found.log
  | .error _ => []

end Request

/-- The throttle after some requests, one after another. -/
def throttleAfterAll (root : Path) (throttle : Throttle τ) (requests : List (Request τ)) :
    Throttle τ :=
  requests.foldl (fun throttle request => request.throttleAfter root throttle) throttle

/-- What a request logs that follows some others, of which the first meets a throttle that has let
nothing through. -/
def Request.logAfter (root : Path) (cooldown : τ) (earlier : List (Request τ))
    (request : Request τ) : List Log.Record :=
  request.log root (throttleAfterAll root (.start cooldown) earlier)

/-- The readings of the clock in those requests that log something, in their order. -/
def emitted (root : Path) : Throttle τ → List (Request τ) → List τ
  | _, [] => []
  | throttle, request :: rest =>
    let others := emitted root (request.throttleAfter root throttle) rest
    if request.log root throttle = [] then others else request.clock :: others

/-! ## One request -/

variable {request : Request τ} {root : Path} {pattern : Pattern} {pids : List Pid}

/-- A search that completes finds the same at any time, and is summarized when the throttle has
room. -/
theorem Request.Completes.outcome_eq (h : request.Completes root pattern pids)
    (throttle : Throttle τ) : request.outcome root throttle =
      .ok ⟨pids, (throttle.ask request.clock).2,
        if (throttle.ask request.clock).1 then [summary pattern pids.length] else []⟩ := by
  rw [Request.outcome, h.target]
  simp only [find, h.sought]
  rfl

/-- A completed search is let through, or it comes too soon and nothing changes. -/
theorem Request.Completes.cases (h : request.Completes root pattern pids)
    (throttle : Throttle τ) :
    throttle.isTooSoon request.clock = true ∧ request.log root throttle = [] ∧
        request.throttleAfter root throttle = throttle ∨
      throttle.isTooSoon request.clock = false ∧
        request.log root throttle = [summary pattern pids.length] ∧
        request.throttleAfter root throttle = { throttle with last := some request.clock } := by
  cases hSoon : throttle.isTooSoon request.clock <;>
    simp [Request.log, Request.throttleAfter, h.outcome_eq throttle, Throttle.ask, hSoon]

/-- A request that is no search, or a search that fails, logs nothing and leaves the throttle as it
is. -/
theorem Request.idle (h : ∀ pattern pids, ¬ request.Completes root pattern pids)
    (throttle : Throttle τ) :
    request.log root throttle = [] ∧ request.throttleAfter root throttle = throttle := by
  have hOutcome : (∃ pids, request.outcome root throttle = .ok ⟨pids, throttle, []⟩) ∨
      ∃ error, request.outcome root throttle = .error error := by
    unfold Request.outcome
    cases hTarget : request.target with
    | single pid => exact .inl ⟨_, rfl⟩
    | listed pids => exact .inl ⟨_, rfl⟩
    | matching pattern =>
        cases hSought : sought pattern.search request.tree root with
        | error error => exact .inr ⟨error, by simp only [find, hSought]; rfl⟩
        | ok pids => exact absurd ⟨hTarget, hSought⟩ (h pattern pids)
  rcases hOutcome with ⟨pids, hOutcome⟩ | ⟨error, hOutcome⟩ <;>
    simp [Request.log, Request.throttleAfter, hOutcome]

/-- What is logged by a request is the summary of a search that it has completed. -/
theorem Request.completes_of_log {throttle : Throttle τ} (h : request.log root throttle ≠ []) :
    ∃ pattern pids, request.Completes root pattern pids ∧
      request.log root throttle = [summary pattern pids.length] := by
  by_contra hNone
  refine h (Request.idle (fun pattern pids hCompletes => ?_) throttle).1
  refine hNone ⟨pattern, pids, hCompletes, ?_⟩
  rcases hCompletes.cases throttle with ⟨-, hLog, -⟩ | ⟨-, hLog, -⟩
  · exact absurd hLog h
  · exact hLog

/-! ## A run of requests -/

variable {throttle : Throttle τ} {requests : List (Request τ)}

theorem throttleAfterAll_append_singleton :
    throttleAfterAll root throttle (requests ++ [request]) =
      request.throttleAfter root (throttleAfterAll root throttle requests) := by
  simp [throttleAfterAll]

/-- A request is summarized or not, after all that came before it. -/
theorem emitted_append_singleton : emitted root throttle (requests ++ [request]) =
    emitted root throttle requests ++
      if request.log root (throttleAfterAll root throttle requests) = [] then []
      else [request.clock] := by
  induction requests generalizing throttle with
  | nil => rfl
  | cons first requests ih =>
      simp only [List.cons_append, emitted, ih, throttleAfterAll, List.foldl_cons]
      split <;> rfl

/-- The throttle remembers the last reading at which something was logged, and nothing else. -/
theorem throttleAfterAll_eq (root : Path) (cooldown : τ) (requests : List (Request τ)) :
    throttleAfterAll root (.start cooldown) requests =
      ⟨cooldown, (emitted root (.start cooldown) requests).getLast?⟩ := by
  induction requests using List.reverseRecOn with
  | nil => rfl
  | append_singleton requests request ih =>
      rw [throttleAfterAll_append_singleton, emitted_append_singleton]
      by_cases hLog : request.log root (throttleAfterAll root (.start cooldown) requests) = []
      · rw [if_pos hLog, List.append_nil, ← ih]
        by_cases hCompletes : ∃ pattern pids, request.Completes root pattern pids
        · obtain ⟨pattern, pids, hCompletes⟩ := hCompletes
          rcases hCompletes.cases _ with ⟨-, -, hAfter⟩ | ⟨-, hSummary, -⟩
          · exact hAfter
          · exact absurd (hSummary.symm.trans hLog) (List.cons_ne_nil _ _)
        · exact (Request.idle (fun pattern pids h => hCompletes ⟨pattern, pids, h⟩) _).2
      · obtain ⟨pattern, pids, hCompletes, -⟩ := Request.completes_of_log hLog
        rcases hCompletes.cases _ with ⟨-, hSilent, -⟩ | ⟨-, -, hAfter⟩
        · exact absurd hSilent hLog
        · rw [if_neg hLog, hAfter, ih, List.getLast?_concat]

/-- A completed search is silent just if the last summary was logged less than the cooldown ago. -/
theorem Request.Completes.silent_iff {cooldown : τ} (h : request.Completes root pattern pids) :
    request.logAfter root cooldown requests = [] ↔
      ∃ last, (emitted root (.start cooldown) requests).getLast? = some last ∧
        request.clock - last < cooldown := by
  have hSoon : (throttleAfterAll root (.start cooldown) requests).isTooSoon request.clock = true ↔
      ∃ last, (emitted root (.start cooldown) requests).getLast? = some last ∧
        request.clock - last < cooldown := by
    rw [throttleAfterAll_eq, Throttle.isTooSoon]
    cases (emitted root (.start cooldown) requests).getLast? <;> simp
  rw [← hSoon, logAfter]
  rcases h.cases (throttleAfterAll root (.start cooldown) requests) with
    ⟨hTooSoon, hLog, -⟩ | ⟨hTooSoon, hLog, -⟩ <;> simp [hTooSoon, hLog]

/-- As long as no search is completed, nothing is logged. -/
theorem emitted_of_idle (h : ∀ request ∈ requests, ∀ pattern pids,
    ¬ request.Completes root pattern pids) : emitted root throttle requests = [] := by
  induction requests with
  | nil => rfl
  | cons first requests ih =>
      obtain ⟨hFirst, hRest⟩ := List.forall_mem_cons.mp h
      obtain ⟨hLog, hAfter⟩ := Request.idle hFirst throttle
      simp only [emitted, hLog, hAfter, if_true, ih hRest]

end Throttled

/-! ## Readings that can be measured -/

section Ordered

variable {τ : Type} [AddCommGroup τ] [LinearOrder τ] [IsOrderedAddMonoid τ]

/-- A reading at least the cooldown after the last of some readings that are so among themselves is
at least the cooldown after each of them. -/
theorem spaced_concat {cooldown clock : τ} (hCooldown : 0 ≤ cooldown) {readings : List τ}
    (hSpaced : readings.Pairwise fun earlier later => cooldown ≤ later - earlier)
    (hLast : ∀ last, readings.getLast? = some last → cooldown ≤ clock - last) :
    (readings ++ [clock]).Pairwise fun earlier later => cooldown ≤ later - earlier := by
  rw [List.pairwise_append]
  refine ⟨hSpaced, List.pairwise_singleton _ _, fun earlier hEarlier later hLater => ?_⟩
  cases List.mem_singleton.mp hLater
  obtain ⟨last, hSome⟩ := Option.isSome_iff_exists.mp
    (List.getLast?_isSome.mpr (List.ne_nil_of_mem hEarlier))
  have hClock : cooldown ≤ clock - last := hLast last hSome
  obtain ⟨front, rfl⟩ := List.getLast?_eq_some_iff.mp hSome
  rcases List.mem_append.mp hEarlier with hFront | hEnd
  · have hEarlier : cooldown ≤ last - earlier :=
      (List.pairwise_append.mp hSpaced).2.2 earlier hFront last (List.mem_singleton_self last)
    calc cooldown ≤ clock - last := hClock
      _ ≤ clock - last + (last - earlier) := le_add_of_nonneg_right (hCooldown.trans hEarlier)
      _ = clock - earlier := sub_add_sub_cancel clock last earlier
  · cases List.mem_singleton.mp hEnd
    exact hClock

/-- Each reading at which a summary is logged is at least the cooldown after all earlier ones. -/
theorem emitted_spaced {cooldown : τ} (hCooldown : 0 ≤ cooldown) (root : Path)
    (requests : List (Request τ)) : (emitted root (.start cooldown) requests).Pairwise
      fun earlier later => cooldown ≤ later - earlier := by
  induction requests using List.reverseRecOn with
  | nil => exact List.Pairwise.nil
  | append_singleton requests request ih =>
      rw [emitted_append_singleton]
      by_cases hLog : request.log root (throttleAfterAll root (.start cooldown) requests) = []
      · rwa [if_pos hLog, List.append_nil]
      · rw [if_neg hLog]
        obtain ⟨pattern, pids, hCompletes, -⟩ := Request.completes_of_log hLog
        refine spaced_concat hCooldown ih fun last hLast => not_lt.mp fun hSoon => ?_
        exact hLog (hCompletes.silent_iff.mpr ⟨last, hLast, hSoon⟩)

/-- Whatever is asked for and whatever the clock shows: summaries are logged at readings that grow
by at least the cooldown. Only a completed search logs one; it is silent just if its reading is less
than the cooldown after that of the last summary, and so the first completed search is not. -/
theorem summaries_spaced {cooldown : τ} (hCooldown : 0 < cooldown) (root : Path)
    (requests : List (Request τ)) :
    ((emitted root (.start cooldown) requests).Pairwise fun earlier later =>
      earlier < later ∧ cooldown ≤ later - earlier) ∧
    ∀ request : Request τ,
      (request.logAfter root cooldown requests ≠ [] →
        ∃ pattern pids, request.Completes root pattern pids) ∧
      ∀ pattern pids, request.Completes root pattern pids →
        (request.logAfter root cooldown requests = [] ∨
          request.logAfter root cooldown requests = [summary pattern pids.length]) ∧
        (request.logAfter root cooldown requests = [] ↔
          ∃ last, (emitted root (.start cooldown) requests).getLast? = some last ∧
            request.clock - last < cooldown) ∧
        ((∀ earlier ∈ requests, ∀ pattern pids, ¬ earlier.Completes root pattern pids) →
          request.logAfter root cooldown requests = [summary pattern pids.length]) := by
  refine ⟨(emitted_spaced hCooldown.le root requests).imp fun hApart =>
    ⟨sub_pos.mp (hCooldown.trans_le hApart), hApart⟩, fun request => ⟨fun hLog => ?_, ?_⟩⟩
  · obtain ⟨pattern, pids, hCompletes, -⟩ := Request.completes_of_log hLog
    exact ⟨pattern, pids, hCompletes⟩
  intro pattern pids hCompletes
  have hLog : request.logAfter root cooldown requests = [] ∨
      request.logAfter root cooldown requests = [summary pattern pids.length] :=
    (hCompletes.cases _).imp (fun h => h.2.1) fun h => h.2.1
  refine ⟨hLog, hCompletes.silent_iff, fun hIdle => hLog.resolve_left fun hSilent => ?_⟩
  obtain ⟨last, hLast, -⟩ := hCompletes.silent_iff.mp hSilent
  rw [emitted_of_idle hIdle] at hLast
  cases hLast

end Ordered

/-- A pattern that is found everywhere. -/
def anyPattern : Pattern := ⟨"", {}, .empty⟩

/-- A host with a single process. -/
def loneProcess : Tree :=
  ⟨[(["proc"], .directory), (["proc", "7"], .directory), (["proc", "7", "cmdline"], .file [])]⟩

/-- Three searches, the last of which was held up on its way to the throttle, a list, and a search
of a host without processes. -/
def heldUpRequests : List (Request ℤ) :=
  [⟨.matching anyPattern, loneProcess, 10⟩, ⟨.matching anyPattern, loneProcess, 309⟩,
    ⟨.matching anyPattern, loneProcess, 5⟩, ⟨.listed [7], loneProcess, 400⟩,
    ⟨.matching anyPattern, .empty, 500⟩]

/-- A search at the cooldown after the first one. -/
def lateRequest : Request ℤ := ⟨.matching anyPattern, loneProcess, 310⟩

theorem completes_lateRequest : lateRequest.Completes ⟨.root, ["proc"]⟩ anyPattern [7] :=
  ⟨rfl, by decide +kernel⟩

/-- Only the first search is summarized, and then one at the cooldown after it. -/
theorem summaries_spaced_heldUp :
    (0 : ℤ) < 300 ∧ lateRequest.Completes ⟨.root, ["proc"]⟩ anyPattern [7] ∧
    emitted ⟨.root, ["proc"]⟩ (.start 300) heldUpRequests = [10] ∧
    lateRequest.logAfter ⟨.root, ["proc"]⟩ 300 heldUpRequests = [summary anyPattern 1] := by
  have hCooldown : (0 : ℤ) < 300 := by decide
  have hEmitted : emitted ⟨.root, ["proc"]⟩ (.start 300) heldUpRequests = [10] := by
    decide +kernel
  refine ⟨hCooldown, completes_lateRequest, hEmitted, ?_⟩
  obtain ⟨hLog, hSilent, -⟩ := ((summaries_spaced hCooldown ⟨.root, ["proc"]⟩
    heldUpRequests).2 lateRequest).2 anyPattern [7] completes_lateRequest
  refine hLog.resolve_left fun hNone => ?_
  obtain ⟨last, hLast, hSoon⟩ := hSilent.mp hNone
  rw [hEmitted] at hLast
  cases hLast
  exact absurd hSoon (by decide)

end PodGauges.Target
