namespace SecureSockets

/-!
Runs: some requests are served one after the other, each in the state that the one before
has left.
-/

section Run

variable {ρ σ τ α : Type}

def serveAll (serve : ρ → σ → α × σ) : List ρ → σ → List α × σ
  | [], state => ([], state)
  | request :: rest, state =>
    let (answer, state) := serve request state
    let (answers, state) := serveAll serve rest state
    (answer :: answers, state)

variable {serve : ρ → σ → α × σ}

theorem serveAll_length (requests : List ρ) (state : σ) :
    (serveAll serve requests state).1.length = requests.length := by
  induction requests generalizing state with
  | nil => rfl
  | cons request rest ih => simp [serveAll, ih]

/-- Those served later start from the state that those before have left. -/
theorem serveAll_append (before after : List ρ) (state : σ) :
    serveAll serve (before ++ after) state =
      ((serveAll serve before state).1 ++
          (serveAll serve after (serveAll serve before state).2).1,
        (serveAll serve after (serveAll serve before state).2).2) := by
  induction before generalizing state with
  | nil => rfl
  | cons request rest ih => simp [serveAll, ih]

/-- A request is answered in the state that those before have left, whatever comes later. -/
theorem serveAll_answer (before after : List ρ) (request : ρ) (state : σ) :
    (serveAll serve (before ++ request :: after) state).1[before.length]? =
      some (serve request (serveAll serve before state).2).1 := by
  have answered : (serveAll serve before state).1.length = before.length :=
    serveAll_length before state
  rw [serveAll_append, ← answered]
  simp [serveAll]

/-- What every request keeps is kept by a run. -/
theorem serveAll_keeps {Holds : σ → Prop}
    (kept : ∀ request state, Holds state → Holds (serve request state).2)
    (requests : List ρ) {state : σ} (holds : Holds state) :
    Holds (serveAll serve requests state).2 := by
  induction requests generalizing state with
  | nil => exact holds
  | cons request rest ih => exact ih (kept request state holds)

/-- States that answer each request alike answer a run alike. -/
theorem serveAll_map {serve' : ρ → τ → α × τ} (image : σ → τ)
    (alike : ∀ request state, serve' request (image state) = (serve request state).map id image)
    (requests : List ρ) (state : σ) :
    serveAll serve' requests (image state) = (serveAll serve requests state).map id image := by
  induction requests generalizing state with
  | nil => rfl
  | cons request rest ih => simp [serveAll, alike, ih]

end Run

end SecureSockets
