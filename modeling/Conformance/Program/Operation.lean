import Conformance.Check.LeafCheck

namespace Conformance

/-!
# Programs

A program is a flat list of operations that checks what a schema checks.  Values
live in numbered slots, loops keep what remains to be visited in numbered
cursors, and whatever an operation needs besides numbers stands in a table of the
program: failure templates, strings and patterns, each named by its index.

Composites and presence gates jump forwards over the block they guard.  The only
jump backwards is the one that closes the body of a loop.
-/

/-- What a leaf operation tests.  Strings and patterns are indices of tables. -/
inductive LeafTest where
  | string (length : LengthBounds)
  | integer (range : IntegerRange)
  | real (range : RealRange)
  | boolean
  | null
  | undefined
  | date
  | timestamp (format : TimestampFormat)
  | exact (expected : Nat)
  | pattern (pattern : Nat)
  | buffer (length : LengthBounds)
deriving DecidableEq, Repr

/-- One operation. -/
inductive Op where
  /-- Opens the block of a node.  A value that is skipped or missing jumps to
  `skip`. -/
  | gate (slot : Nat) (required nullable nullIsValue : Bool) (missing skip : Nat)
  /-- Tests a leaf.  Without a constraint template the bounds are not reported. -/
  | test (slot : Nat) (test : LeafTest) (wrongType : Nat) (constraint : Option Nat)
  /-- Requires a record and jumps to `skip` on any other value. -/
  | object (slot notObject skip : Nat)
  /-- Requires a list within bounds, if there are bounds. -/
  | array (slot notArray : Nat) (length : Option (LengthBounds × Nat)) (skip : Nat)
  /-- Requires a list of one length. -/
  | tuple (slot notArray arity wrongLength skip : Nat)
  /-- Requires a record with a count of keys within bounds, if there are bounds. -/
  | record (slot notObject : Nat) (keys : Option (LengthBounds × Nat)) (skip : Nat)
  /-- Loads the value under a key, which may be absent. -/
  | field (source target name : Nat)
  /-- Loads the value at a position. -/
  | element (source target position : Nat)
  /-- Starts a loop over the items of a list. -/
  | items (source cursor : Nat)
  /-- Starts a loop over the entries of a record. -/
  | entries (source cursor : Nat)
  /-- Loads the next value of a loop, or jumps to `done` after the last. -/
  | next (source cursor target done : Nat)
  /-- Goes on elsewhere. -/
  | jump (target : Nat)
  /-- Opens a union. -/
  | openUnion (synthesized : Bool)
  /-- Opens an alternative that is closed at `closing`. -/
  | openAlternative (closing : Nat)
  /-- Closes an alternative.  If it found nothing the union is closed as well and
  the program goes on at `done`. -/
  | closeAlternative (done : Nat)
  /-- Closes a union whose alternatives all failed. -/
  | closeUnion (slot mismatch : Nat)
deriving DecidableEq, Repr

/-- A program with its tables and the counts of its slots and cursors. -/
structure Program where
  ops : Array Op
  templates : Array Template
  strings : Array String
  patterns : Array Pattern
  slots : Nat
  cursors : Nat
deriving DecidableEq

/-- The count of operations. -/
def Program.size (program : Program) : Nat := program.ops.size

end Conformance
