-- SUMMARY: One lock for each pod that is worked on, in the order of asking.
import NetAttach.Keyed
import NetAttach.Pod

/-!
# Pod locks

A lock is made when it is first asked for and forgotten when nobody holds it or waits
for it. Whoever asks joins the line at the lock; the first in line holds it. To let
go of a lock takes two steps: its holder leaves the line, and later looks whether the
lock of the pod, which need not be the same one any more, can be forgotten.
-/

namespace NetAttach

/-- The locks of the pods. -/
structure Locks where
  /-- The number of the lock of each pod. -/
  entries : Keyed ObjectKey Nat
  /-- Who holds a lock, and behind it who waits for it. -/
  lines : Keyed Nat (List Nat)
  /-- The number of the next lock that is made. -/
  fresh : Nat
deriving Repr, DecidableEq

namespace Locks

/-- Without locks. -/
def empty : Locks := ⟨.empty, .empty, 0⟩

/-- The line at a lock. -/
def line (l : Locks) (lock : Nat) : List Nat := (l.lines.get? lock).getD []

/-- A task asks for the lock of a pod, and is told its number. -/
def request (l : Locks) (pod : ObjectKey) (task : Nat) : Nat × Locks :=
  match l.entries.get? pod with
  | some lock => (lock, { l with lines := l.lines.put lock (l.line lock ++ [task]) })
  | none =>
    (l.fresh,
      { entries := l.entries.put pod l.fresh
        lines := l.lines.put l.fresh [task]
        fresh := l.fresh + 1 })

/-- A task holds a lock. -/
def holds (l : Locks) (lock task : Nat) : Bool := (l.line lock).head? == some task

/-- A task leaves the line at a lock. -/
def release (l : Locks) (lock task : Nat) : Locks :=
  { l with lines := l.lines.put lock ((l.line lock).erase task) }

/-- Forget the lock of a pod if nobody is in line at it. -/
def sweep (l : Locks) (pod : ObjectKey) : Locks :=
  match l.entries.get? pod with
  | some lock => if l.line lock = [] then { l with entries := l.entries.erase pod } else l
  | none => l

end Locks

end NetAttach
