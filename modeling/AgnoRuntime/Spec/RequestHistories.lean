import AgnoRuntime.Spec.RequestSteps

/-!
# Histories of requests

Requests are served one after another, each with failures and a client of its own.
What the earlier ones have committed is what the later ones find, and it stays.
-/

namespace AgnoRuntime

/-- The store after requests that were served one after another. -/
def servedAll (store : Store) (history : List (Env × Request)) : Store :=
  history.foldl (fun store served => (served.2.served served.1 store).store) store

@[simp] theorem servedAll_nil (store : Store) : servedAll store [] = store := rfl

theorem servedAll_append (store : Store) (earlier later : List (Env × Request)) :
    servedAll store (earlier ++ later) = servedAll (servedAll store earlier) later :=
  List.foldl_append

/-- What each request preserves, a history preserves. -/
theorem servedAll_invariant {P : Store → Prop}
    (hstep : ∀ env request store, P store → P (Request.served env store request).store)
    {store : Store} (h : P store) (history : List (Env × Request)) :
    P (servedAll store history) := by
  induction history generalizing store with
  | nil => exact h
  | cons served history ih => exact ih (hstep served.1 served.2 store h)

/-- Whatever happens in the later requests, everything the earlier ones have committed is still
    there and as it was, and their runs have got no further messages, events or step records. The
    requests are chats, workflow runs and plans; an update of a workflow, which deletes the records
    of its steps, is not one of them. -/
theorem earlier_requests_kept (store : Store) (earlier later : List (Env × Request)) :
    HistoryKept (servedAll store earlier).db (servedAll store (earlier ++ later)).db := by
  rw [servedAll_append]
  exact servedAll_invariant (P := fun s => HistoryKept (servedAll store earlier).db s.db)
    (fun env request s hs => hs.trans (Request.served_reaches env s request).kept) (.refl _) later

end AgnoRuntime
