import Mathlib.Algebra.Order.Ring.Defs
import Mathlib.Tactic.Linarith

/-!
# Caches with a time to live

A cache holds one value and the time at which the fetch of it began. Fetches overlap:
each reads the clock, asks the source, stores what the source has answered together
with the time it read, and takes what is in the cache then, which another fetch may
have stored. `Sourced` and `StoredSince` are what such fetches keep true of the cache;
from them, what is taken from it was published not long ago (`Sourced.of_fresh`,
`Sourced.of_storedSince`).
-/

/-- A value and when its fetch began. -/
structure TtlCache (T α : Type) where
  value : Option α
  fetchedAt : T

namespace TtlCache

variable {T α : Type} [CommRing T] [LinearOrder T]

/-- The value, if its fetch began less than `ttl` ago. -/
def fresh? (c : TtlCache T α) (ttl now : T) : Option α :=
  if now - c.fetchedAt < ttl then c.value else none

/-- No value. -/
def invalidate (c : TtlCache T α) : TtlCache T α := { c with value := none }

/-- The value in the cache was published after its fetch began. `Published t v` says that the
    source answers `v` at `t`. -/
def Sourced (Published : T → α → Prop) (clock : T) (c : TtlCache T α) : Prop :=
  ∀ v, c.value = some v → ∃ t, c.fetchedAt ≤ t ∧ t ≤ clock ∧ Published t v

/-- Since a fetch that began at `start` has stored its answer, the cache holds no value whose fetch
    began more than `limit` earlier. -/
def StoredSince (limit start : T) (c : TtlCache T α) : Prop :=
  ∀ v, c.value = some v → start - limit ≤ c.fetchedAt

section Rules

variable {Published : T → α → Prop} {clock clock' limit start start' ttl : T} {c : TtlCache T α}
  {v : α} {value : Option α}

omit [CommRing T] in
theorem sourced_of_none (h : c.value = none) : Sourced Published clock c :=
  fun v hv => by rw [h] at hv; cases hv

omit [CommRing T] in
/-- Time passes. -/
theorem Sourced.tick (h : Sourced Published clock c) (hclock : clock ≤ clock') :
    Sourced Published clock' c := by
  intro v hv
  obtain ⟨t, hfetched, ht, hpublished⟩ := h v hv
  exact ⟨t, hfetched, ht.trans hclock, hpublished⟩

omit [CommRing T] in
/-- A fetch stores what was published since it began. -/
theorem sourced_store
    (h : ∀ v, value = some v → ∃ t, start ≤ t ∧ t ≤ clock ∧ Published t v) :
    Sourced Published clock ⟨value, start⟩ :=
  h

theorem storedSince_of_none (h : c.value = none) : StoredSince limit start c :=
  fun v hv => by rw [h] at hv; cases hv

variable [IsStrictOrderedRing T]

/-- The fetch itself stores. -/
theorem storedSince_self (hlimit : 0 ≤ limit) :
    StoredSince limit start (⟨value, start⟩ : TtlCache T α) := by
  intro v _
  show start - limit ≤ start
  linarith

/-- Another fetch stores, which has taken no longer than `limit`. -/
theorem storedSince_store (hstart : start ≤ clock) (hlimit : clock - start' ≤ limit) :
    StoredSince limit start (⟨value, start'⟩ : TtlCache T α) := by
  intro v _
  show start - limit ≤ start'
  linarith

/-- What is taken within the time to live was published within it. -/
theorem Sourced.of_fresh (h : Sourced Published clock c) (hv : c.fresh? ttl clock = some v) :
    ∃ t, clock - ttl < t ∧ t ≤ clock ∧ Published t v := by
  rw [fresh?] at hv
  split at hv
  · next hyoung =>
    obtain ⟨t, hfetched, ht, hpublished⟩ := h v hv
    exact ⟨t, by linarith, ht, hpublished⟩
  · cases hv

/-- What a fetch takes at its end was published at most two fetches earlier. -/
theorem Sourced.of_storedSince (h : Sourced Published clock c) (hstored : StoredSince limit start c)
    (hlimit : clock - start ≤ limit) (hv : c.value = some v) :
    ∃ t, clock - (limit + limit) ≤ t ∧ t ≤ clock ∧ Published t v := by
  obtain ⟨t, hfetched, ht, hpublished⟩ := h v hv
  have hbegan : start - limit ≤ c.fetchedAt := hstored v hv
  exact ⟨t, by linarith, ht, hpublished⟩

end Rules

end TtlCache
