import Asm16.Machine.Word
import Asm16.Fault

/-!
# Watchers of memory

A watcher is told of every byte that is stored, and answers with reactions.  It is known by its
name: the first watcher introduced under a name keeps it, and from then on the name alone is enough
to subscribe it again.  That is what lets a watcher leave the list and come back.

What a watcher does depends on the change alone.  One that behaves differently from time to time, as
one that counts its calls does, goes through names: it ends its subscription and subscribes another
name, which stands for what it does from then on.  It goes to the end of the list by that, and its
notices carry the new name.

* `Change` — a store as it is announced: the cell, its old and its new contents.
* `Reaction` — what a watcher may do when it is told: subscribe a watcher, end a subscription, store
  another byte, or give up with an error.
* `Watcher` — a name and the reactions to each change.
* `Notice` — the record that a watcher was told of a change.

The last section has the watchers that a host mostly wants.
-/

namespace Asm16

structure Change where
  address : Nat
  old : Byte
  new : Byte
  deriving DecidableEq, Repr

/-- What a watcher does on hearing of a change. -/
inductive Reaction
  /-- Subscribe the watcher known under a name; if none is, the name stands for the given
  reactions from now on. -/
  | subscribe (name : Text) (react : Change → List Reaction)
  | unsubscribe (name : Text)
  /-- Store a byte; this is announced in turn. -/
  | write (address value : Int)
  | refuse (error : Error)

/-- A name and the reactions to each change. -/
structure Watcher where
  name : Text
  react : Change → List Reaction

/-- A watcher was told of a change. -/
structure Notice where
  watcher : Text
  change : Change
  deriving DecidableEq, Repr

namespace Watcher

def recorder (name : Text) : Watcher := ⟨name, fun _ => []⟩

/-- Ends its subscription at the first change. -/
def once (name : Text) : Watcher := ⟨name, fun _ => [.unsubscribe name]⟩

/-- Subscribes a recorder under another name at every change. -/
def recruiter (name recruit : Text) : Watcher :=
  ⟨name, fun _ => [.subscribe recruit fun _ => []]⟩

def refuser (name : Text) (error : Error) : Watcher := ⟨name, fun _ => [.refuse error]⟩

/-- Stores the successor of each new byte `offset` cells further on, if that cell is below `limit`.
It stands aside while it stores, so that it does not hear of its own store. -/
def echo (name : Text) (offset limit : Nat) : Watcher :=
  ⟨name, fun change =>
    if change.address + offset < limit then
      [.unsubscribe name, .write (change.address + offset) (change.new.toNat + 1),
        .subscribe name fun _ => []]
    else []⟩

end Watcher
end Asm16
