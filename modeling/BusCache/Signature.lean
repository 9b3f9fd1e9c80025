import BusCache.Error
import BusCache.Kind

/-!
# Signatures — the kinds that texts describe

A signature is read from its bytes by descent: one complete type from an offset on, which yields a
kind and the offset behind it. One byte of lookahead tells a dictionary from an array. Every byte
is looked at under a check of its offset, so an offset behind the end reads as the end of the text.
-/

namespace BusCache

namespace Kind

/-- An offset behind `i`, at most the end. -/
abbrev Further (bytes : ByteArray) (i : Nat) := { next : Nat // i < next ∧ next ≤ bytes.size }

/-- The byte at an offset as a letter; none at the end or behind it. -/
def letterAt? (bytes : ByteArray) (i : Nat) : Option Char :=
  if h : i < bytes.size then some (Char.ofUInt8 bytes[i]) else none

theorem lt_size_of_letterAt? {bytes : ByteArray} {i : Nat} {c : Char}
    (h : letterAt? bytes i = some c) : i < bytes.size := by
  unfold letterAt? at h
  split at h
  · assumption
  · cases h

/-- The kind of one letter, containers apart. -/
def ofCode? : Char → Option Kind
  | 'v' => some variant
  | c => (BasicType.ofCode? c).map basic

/-- Whether a letter is the type of a dictionary key. -/
def isKeyCode (c : Char) : Bool := (BasicType.ofCode? c).any BasicType.isText

mutual

/-- Reads one complete type. -/
def readAt? (bytes : ByteArray) (i : Nat) : Option (Kind × Further bytes i) :=
  if h : i < bytes.size then
    match Char.ofUInt8 bytes[i] with
    | 'a' =>
        if letterAt? bytes (i + 1) = some '\x7b' then
          if (letterAt? bytes (i + 2)).any isKeyCode then
            match readAt? bytes (i + 3) with
            | none => none
            | some (value, ⟨next, hn⟩) =>
                if hc : letterAt? bytes next = some '\x7d' then
                  some (dict value, ⟨next + 1, by have := lt_size_of_letterAt? hc; omega⟩)
                else none
          else none
        else
          match readAt? bytes (i + 1) with
          | none => none
          | some (element, ⟨next, hn⟩) => some (array element, ⟨next, by omega⟩)
    | '(' =>
        match readFieldsAt? bytes (i + 1) with
        | none | some ([], _) => none
        | some (f :: fs, ⟨next, hn⟩) => some (struct (f :: fs), ⟨next, by omega⟩)
    | c => (ofCode? c).map fun k => (k, ⟨i + 1, by omega⟩)
  else none
termination_by (bytes.size - i, 0)

/-- Reads the types of a structure up to and with its closing parenthesis. -/
def readFieldsAt? (bytes : ByteArray) (i : Nat) : Option (List Kind × Further bytes i) :=
  if h : i < bytes.size then
    match Char.ofUInt8 bytes[i] with
    | ')' => some ([], ⟨i + 1, by omega⟩)
    | _ =>
        match readAt? bytes i with
        | none => none
        | some (k, ⟨after, ha⟩) =>
            match readFieldsAt? bytes after with
            | none => none
            | some (ks, ⟨next, hn⟩) => some (k :: ks, ⟨next, by omega⟩)
  else none
termination_by (bytes.size - i, 1)

end

/-- The kind of a signature that describes exactly one type the cache can hold. -/
def ofText? (signature : String) : Option Kind :=
  match readAt? signature.toUTF8 0 with
  | none => none
  | some (kind, ⟨next, _⟩) => if next = signature.toUTF8.size then some kind else none

def parse (signature : String) : Except BusError Kind :=
  match ofText? signature with
  | none => .error (.unsupportedSignature signature)
  | some kind => .ok kind

end Kind

end BusCache
