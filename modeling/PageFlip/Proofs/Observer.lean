import PageFlip.Proofs.Course

/-!
# Observers

An `Observer` takes notes of the steps that an operation is carried out in. `Observer.notes` are its
notes from a progress until the operation comes to rest, and `Observer.notes_induct` is the
induction that every statement on such notes goes by: what each step keeps, with what is noted of
it, holds where the operation comes to rest.

A session does not know that it is observed: the notes are about the same steps that
`Screen.proceed` carries out.
-/

namespace PageFlip

/-- Somebody who takes notes of the steps of operations. -/
structure Observer (β : Type) where
  /-- What is noted of a step, the last first. -/
  step : Screen → Task → List β

namespace Observer

variable {β : Type} (o : Observer β)

/-- What is noted until the operation comes to rest, in at most `fuel` steps. -/
def notesWithin (fuel : Nat) (s : Screen) (t : Task) (h : t.weight < fuel) : List β :=
  match fuel, h with
  | fuel + 1, h =>
    match hp : (s.step t).next with
    | .inl u =>
      notesWithin fuel (s.step t).screen u (Screen.weight_lt_of_next hp h) ++ o.step s t
    | .inr _ => o.step s t

/-- What is noted from a progress until the operation comes to rest, the last first. -/
def notes (p : Progress Follow) : List β :=
  match p.next with
  | .inl t => o.notesWithin (t.weight + 1) p.screen t t.weight_lt_succ
  | .inr _ => []

/-- What holds at the start of a row of steps and is kept by each of them, together with what is
noted of it, holds where the operation comes to rest. -/
theorem notes_induct {P : Screen → Follow → List β → Prop}
    (hstep : ∀ s t l, P s (.inl t) l → P (s.step t).screen (s.step t).next (o.step s t ++ l))
    {p : Progress Follow} {l : List β} (hp : P p.screen p.next l) :
    P (Screen.proceed p).screen (.inr (Screen.proceed p).next) (o.notes p ++ l) := by
  -- The induction is on the number of steps that are allowed, which the weight of a task bounds.
  have hrun : ∀ fuel s t l (h : t.weight < fuel), P s (.inl t) l →
      P (s.run t).screen (.inr (s.run t).next) (o.notesWithin fuel s t h ++ l) := by
    intro fuel
    induction fuel with
    | zero => exact fun s t l h => absurd h (Nat.not_lt_zero _)
    | succ fuel ih =>
      intro s t l h ht
      have hnext := hstep s t l ht
      rw [Screen.run_eq, notesWithin]
      split
      · rename_i u hu
        rw [hu] at hnext
        simp only [Screen.proceed, hu, Progress.after]
        rw [List.append_assoc]
        exact ih _ _ _ _ hnext
      · rename_i r hr
        rw [hr] at hnext
        simp only [Screen.proceed, hr]
        exact hnext
  unfold Screen.proceed notes
  cases hnext : p.next with
  | inl t =>
    rw [hnext] at hp
    exact hrun _ _ _ _ _ hp
  | inr r =>
    rw [hnext] at hp
    exact hp

end Observer

end PageFlip
