import SqlWire.Statement.Token

/-! # Placeholders

The placeholders of a statement in the order of the text, each with the offset of its first byte. A
caller can list them, or have each of them looked at until one is refused.
-/

namespace SqlWire

/-- A place in a statement that a value is to fill. -/
inductive Placeholder where
  /-- A name with its at sign: where it starts and how many bytes it has. -/
  | named (start length : Nat)
  /-- A question mark. -/
  | positional (start : Nat)
deriving Repr, DecidableEq

namespace Placeholder

def start : Placeholder → Nat
  | named start _ => start
  | positional start => start

/-- How many bytes a placeholder has. -/
def length : Placeholder → Nat
  | named _ length => length
  | positional _ => 1

/-- The placeholders among tokens of which the first starts at an offset. -/
def ofTokens : Nat → List Token → List Placeholder
  | _, [] => []
  | start, token :: rest =>
    let others := ofTokens (start + token.bytes.length) rest
    match token with
    | .plain _ => others
    | .named text => named start text.length :: others
    | .positional => positional start :: others

def ofText (text : Bytes) : List Placeholder := ofTokens 0 (Token.cut text)

/-- Shows a handler one placeholder after the other; a refusal ends that. -/
def visit {m : Type → Type} [Monad m] (handler : Placeholder → m Unit) (text : Bytes) : m Unit :=
  (ofText text).forM handler

end Placeholder

end SqlWire
