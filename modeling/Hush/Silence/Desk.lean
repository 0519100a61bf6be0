import Hush.Silence.Source

/-!
# A desk of sources

Several sources side by side, each known by number, and their streams numbered across all of them.
One source can be common to all: whoever asks for it gets a number of its own for the same source.
-/
namespace Hush.Silence

/-- Sources, the number of each source by handle, and where each stream lives. -/
structure Desk where
  sources : List Source
  handles : List Nat
  common : Option Nat
  streams : List (Nat × Nat)

namespace Desk

def empty : Desk := ⟨[], [], none, []⟩

/-- The desk with a further source; its handle is the last one. -/
def add (d : Desk) (s : Source) : Desk :=
  { d with sources := d.sources ++ [s], handles := d.handles ++ [d.sources.length] }

/-- The desk with a further handle on the common source, which starts from the seed if there is
none yet. -/
def addCommon (d : Desk) (seed : UInt64) : Desk :=
  match d.common with
  | some place => { d with handles := d.handles ++ [place] }
  | none => { d.add (.seeded seed) with common := some d.sources.length }

/-- Where the source of a handle lies. -/
def place? (d : Desk) (handle : Nat) : Option Nat := d.handles[handle]?

def generator? (d : Desk) (place : Nat) : Option Generator :=
  d.sources[place]?.map (·.generator)

def stream? (d : Desk) (number : Nat) : Option Stream := do
  let (place, own) ← d.streams[number]?
  (← d.sources[place]?).streams[own]?

structure Answer where
  desk : Desk
  reply : Source.Reply
  events : List Log.Event

/-- The desk after a step of the source at a place. -/
def after (d : Desk) (place : Nat) (out : Source.Step) : Desk :=
  let moved := { d with sources := d.sources.set place out.source }
  match out.reply with
  | .added own => { moved with streams := moved.streams ++ [(place, own)] }
  | _ => moved

/-- A call to the source at a place. -/
def call (d : Desk) (place : Nat) (c : Source.Call) : Except Fault Answer :=
  match d.sources[place]? with
  | none => .ok ⟨d, .done, []⟩
  | some s => do
    let out ← s.step c
    return ⟨d.after place out, out.reply, out.events⟩

end Desk
end Hush.Silence
