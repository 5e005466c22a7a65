import KernelGen.Log.Logger

/-! Which of many requests sets up logging. The first one does, and all that come later find the
place taken. A request of tests does not touch the gate, though, so what a program asks for after
it still gets through, and fails there. -/
namespace KernelGen.Log

/-- How a request ends that comes after another one. -/
def Request.endingAfter (first r : Request) : Ending :=
  if first = .test ∧ r ≠ .test then .panicked else .done

theorem Request.limit?_eq_none {r : Request} : r.limit? = none ↔ r = .test := by
  cases r <;> simp [Request.limit?]

namespace Logging

variable {outside : Option String} {first r : Request} {s : Logging}

/-- The logger of the first request is in its place. The gate has been passed, unless tests were
the first to ask. -/
structure Holds (outside : Option String) (first : Request) (s : Logging) : Prop where
  logger : s.logger = some (first.logger outside)
  limit : s.limit = (first.logger outside).filter.most
  gate : s.gate = .passed ↔ first ≠ .test

theorem install?_of_taken {l : Logger} (h : s.logger = some l) (new : Logger) :
    s.install? new = none := by
  simp [install?, h]

theorem install?_of_free (h : s.logger = none) (new : Logger) :
    s.install? new = some { s with logger := some new, limit := new.filter.most } := by
  simp [install?, h]

theorem request_fresh (outside : Option String) (first : Request) :
    (fresh.request outside first).1 = .done ∧
      Holds outside first (fresh.request outside first).2 := by
  have hInstall := install?_of_free (s := fresh.complain outside) rfl (first.logger outside)
  cases hLimit : first.limit? with
  | none =>
      have hFirst := Request.limit?_eq_none.mp hLimit
      simp only [request, hLimit, hInstall, Option.getD_some]
      exact ⟨trivial, rfl, rfl, by simp [hFirst, complain, fresh]⟩
  | some l =>
      have hFirst : first ≠ .test := fun h => by simp [Request.limit?_eq_none.mpr h] at hLimit
      simp only [request, hLimit, hInstall, show fresh.gate = .unused from rfl]
      exact ⟨trivial, rfl, rfl, by simp [hFirst]⟩

theorem run_cons (outside : Option String) (s : Logging) (r : Request) (rest : List Request) :
    s.run outside (r :: rest) =
      ((s.request outside r).1 :: ((s.request outside r).2.run outside rest).1,
        ((s.request outside r).2.run outside rest).2) := rfl

/-- A later request leaves the logger and the limit, whether it fails or not. -/
theorem Holds.request (holds : Holds outside first s) (r : Request) :
    (s.request outside r).1 = first.endingAfter r ∧
      Holds outside first (s.request outside r).2 := by
  obtain ⟨hLogger, hMost, hGate⟩ := holds
  have hInstall := install?_of_taken (s := s.complain outside) hLogger (r.logger outside)
  cases hLimit : r.limit? with
  | none =>
      have hr := Request.limit?_eq_none.mp hLimit
      simp only [Logging.request, hLimit, hInstall, Option.getD_none]
      exact ⟨by simp [Request.endingAfter, hr], hLogger, hMost, hGate⟩
  | some l =>
      have hr : r ≠ .test := fun h => by simp [Request.limit?_eq_none.mpr h] at hLimit
      cases hState : s.gate with
      | passed =>
          have hFirst := hGate.mp hState
          simp only [Logging.request, hLimit, hState]
          exact ⟨by simp [Request.endingAfter, hFirst], hLogger, hMost, hGate⟩
      | broken =>
          have hFirst : first = .test := by simpa [hState] using hGate
          simp only [Logging.request, hLimit, hState]
          exact ⟨by simp [Request.endingAfter, hFirst, hr], hLogger, hMost, hGate⟩
      | unused =>
          have hFirst : first = .test := by simpa [hState] using hGate
          simp only [Logging.request, hLimit, hState, hInstall]
          exact ⟨by simp [Request.endingAfter, hFirst, hr], hLogger, hMost, by simp [hFirst]⟩

theorem Holds.run (holds : Holds outside first s) (later : List Request) :
    (s.run outside later).1 = later.map first.endingAfter ∧
      Holds outside first (s.run outside later).2 := by
  induction later generalizing s with
  | nil => exact ⟨rfl, holds⟩
  | cons r later ih =>
      obtain ⟨hEnding, hNext⟩ := holds.request r
      obtain ⟨hEndings, hLast⟩ := ih hNext
      exact ⟨by rw [run_cons, List.map_cons, hEnding, hEndings], hLast⟩

/-- Whatever is asked for in a fresh process and in whatever order, the first request succeeds
and its logger stays, with its limit. Later requests panic if they are those of a program and the
first one was that of a test, and in no other case. -/
theorem first_request_decides (outside : Option String) (first : Request)
    (later : List Request) :
    ∃ s, fresh.run outside (first :: later) = (.done :: later.map first.endingAfter, s) ∧
      s.logger = some (first.logger outside) ∧
      s.limit = (first.logger outside).filter.most ∧
      (.panicked ∈ (fresh.run outside (first :: later)).1 ↔
        first = .test ∧ ∃ r ∈ later, r ≠ .test) := by
  obtain ⟨hEnding, holds⟩ := request_fresh outside first
  obtain ⟨hEndings, hLast⟩ := holds.run later
  have hRun : (fresh.run outside (first :: later)).1 = .done :: later.map first.endingAfter := by
    rw [run_cons, hEnding, hEndings]
  refine ⟨_, Prod.ext hRun rfl, hLast.logger, hLast.limit, ?_⟩
  rw [hRun]
  by_cases hFirst : first = .test <;> simp [Request.endingAfter, hFirst]

/-- What a program asks for is refused with a panic once tests have asked, and so is all that it
asks for then. -/
theorem program_after_test_panics :
    (fresh.run none [.test, .usual, .limit (some .info)]).1 = [.done, .panicked, .panicked] := by
  decide

end Logging

end KernelGen.Log
