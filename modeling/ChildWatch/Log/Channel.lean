import ChildWatch.Text.Line

/-! # Channels of lines

An unbounded queue of lines with any number of senders and one receiver.

* `Channel.send`, `Channel.close`, `Channel.addSender` — what the sending side does.
* `Channel.isOpen` — whether some sender is left. -/

namespace ChildWatch.Log

open Text

/-- A **channel**: which of its senders are open, in the order in which they were made, and the
lines sent and not yet received, in order. -/
structure Channel where
  senders : List Bool
  queue : List Line
deriving DecidableEq, Repr

namespace Channel

/-- A channel with one open sender and nothing sent. -/
def fresh : Channel := ⟨[true], []⟩

/-- Whether a sender is open; a sender that does not exist is not. -/
def isSenderOpen (c : Channel) (i : Nat) : Bool := c.senders[i]?.getD false

/-- Whether any sender is open. -/
def isOpen (c : Channel) : Bool := c.senders.contains true

/-- The open sender with the least number. -/
def firstOpen? (c : Channel) : Option Nat := c.senders.findIdx? (· == true)

/-- Lines put at the end of the queue. -/
def enqueue (c : Channel) (lines : List Line) : Channel := { c with queue := c.queue ++ lines }

/-- Sending a line succeeds on an open sender only. -/
def send (c : Channel) (i : Nat) (line : Line) : Bool × Channel :=
  if c.isSenderOpen i then (true, c.enqueue [line]) else (false, c)

/-- Closing succeeds on an open sender only. -/
def close (c : Channel) (i : Nat) : Bool × Channel :=
  if c.isSenderOpen i then (true, { c with senders := c.senders.set i false }) else (false, c)

/-- One more sender, a copy of an open one; with none open, a closed one is added. -/
def addSender (c : Channel) : Bool × Channel :=
  (c.isOpen, { c with senders := c.senders ++ [c.isOpen] })

@[simp] theorem queue_enqueue (c : Channel) (lines : List Line) :
    (c.enqueue lines).queue = c.queue ++ lines := rfl

@[simp] theorem isOpen_enqueue (c : Channel) (lines : List Line) :
    (c.enqueue lines).isOpen = c.isOpen := rfl

end Channel

end ChildWatch.Log
