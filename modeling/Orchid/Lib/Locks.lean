import Orchid.Lib.Lists

/-!
# Locks held by threads

Threads are the entries of a list, and a thread that is at `a` holds the lock `key a`, or none. So
there is no lock table: who holds a lock is read off where the threads are.

* **`Exclusive`**: no two threads hold the same lock. It is kept when a thread moves to where it
  holds nothing, the lock it held before, or a lock that is free (`Exclusive.set`).
* `Exclusive.free_of_release`: when its holder lets go of a lock, the lock is free.
-/

namespace Locks

open Lists

variable {α κ : Type} {key : α → Option κ} {threads : List α} {i : Nat} {a a' : α} {lock : κ}

def Exclusive (key : α → Option κ) (threads : List α) : Prop :=
  ∀ (i j : Nat) (a b : α) (lock : κ), threads[i]? = some a → threads[j]? = some b →
    key a = some lock → key b = some lock → i = j

/-- Nobody holds the lock. -/
def Free (key : α → Option κ) (threads : List α) (lock : κ) : Prop :=
  ∀ a ∈ threads, key a ≠ some lock

theorem exclusive_of_free (hfree : ∀ lock, Free key threads lock) : Exclusive key threads := by
  intro i j a b lock hi _ ha _
  exact absurd ha (hfree lock a (List.mem_of_getElem? hi))

/-- A thread moves on. -/
theorem Exclusive.set (hexclusive : Exclusive key threads) (hi : threads[i]? = some a)
    (hmove : ∀ lock, key a' = some lock → key a = some lock ∨ Free key threads lock) :
    Exclusive key (threads.set i a') := by
  intro j k b c lock hj hk hb hc
  rcases getElem?_set_cases hj with ⟨rfl, rfl⟩ | ⟨-, hother⟩
  · rcases getElem?_set_cases hk with ⟨rfl, -⟩ | ⟨-, hthere⟩
    · rfl
    · rcases hmove lock hb with hkept | hfree
      · exact hexclusive j k a c lock hi hthere hkept hc
      · exact absurd hc (hfree c (List.mem_of_getElem? hthere))
  · rcases getElem?_set_cases hk with ⟨rfl, rfl⟩ | ⟨-, hthere⟩
    · rcases hmove lock hc with hkept | hfree
      · exact hexclusive j k b a lock hother hi hb hkept
      · exact absurd hb (hfree b (List.mem_of_getElem? hother))
    · exact hexclusive j k b c lock hother hthere hb hc

/-- The holder of a lock lets go of it. -/
theorem Exclusive.free_of_release (hexclusive : Exclusive key threads)
    (hi : threads[i]? = some a) (ha : key a = some lock) (ha' : key a' ≠ some lock) :
    Free key (threads.set i a') lock := by
  intro b hb hkey
  obtain ⟨j, hj⟩ := List.mem_iff_getElem?.mp hb
  rcases getElem?_set_cases hj with ⟨-, rfl⟩ | ⟨hji, hother⟩
  · exact ha' hkey
  · exact hji (hexclusive j i b a lock hother hi hkey ha)

end Locks
