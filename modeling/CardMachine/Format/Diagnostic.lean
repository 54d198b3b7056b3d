import CardMachine.Format.Resolve
import CardMachine.Format.Rules
import CardMachine.Text.Excerpt
import CardMachine.Text.Quoted

/-! # Messages about a text

A diagnostic keeps the text it is about, so that its place in lines and columns and the excerpt that
shows it are functions of it. -/

namespace CardMachine.Format

open Grammar (Span)
open Text (Place)

/-- The message of a fault. -/
def Fault.message : Fault → String
  | repeatedDeclaration kind => s!"Duplicate \"{kind.keyword}:\" declaration"
  | stateOutOfRange => "State id out of range"
  | stepOutOfRange => "Step offset out of range"
  | headOutOfRange => "Head position out of range"
  | repeatedCard id => s!"Duplicate card: {id}"
  | repeatedAction symbol id =>
    s!"Duplicate action for symbol {Text.quoted symbol} in card {id}"
  | repeatedPreset name => s!"Duplicate preset: {name}"

/-- The message of an omission. -/
def Omission.message : Omission → String
  | name => s!"Missing '{Kind.name.keyword}' section"
  | cards => s!"Missing '{Kind.cards.keyword}' section"
  | tapeOfHead => s!"'{Kind.head.keyword}' requires a '{Kind.tape.keyword}' section"

/-- A list in words. -/
def enumerated : List String → String
  | [] => ""
  | [a] => a
  | [a, b] => s!"{a} or {b}"
  | a :: b :: l => ", ".intercalate ((a :: b :: l).dropLast) ++ ", or " ++ (b :: l).getLastD ""

/-- Why a text cannot be read. -/
inductive Cause where
  /-- At the position one of the rules was expected. -/
  | unexpected (pos : Nat) (expected : List Rule)
  /-- Part of the text is at fault. -/
  | fault (span : Span) (fault : Fault)

/-- A text that cannot be read, and why. -/
structure Diagnostic where
  text : List Char
  cause : Cause

namespace Diagnostic

/-- What is wrong, in words. -/
def summary (d : Diagnostic) : String :=
  match d.cause with
  | .unexpected _ expected => "expected " ++ enumerated (expected.map Rule.title)
  | .fault _ fault => fault.message

/-- Where it is wrong: a place, or the two ends of a part of the text. -/
def places (d : Diagnostic) : List Place :=
  match d.cause with
  | .unexpected pos _ => [Text.place d.text pos]
  | .fault span _ => [Text.place d.text span.start, Text.endPlace d.text span.stop]

/-- The message with an excerpt of the text. -/
def render (d : Diagnostic) : String :=
  match d.cause with
  | .unexpected pos _ => Text.excerptAt d.text pos d.summary
  | .fault span _ => Text.excerptOf d.text span.start span.stop d.summary

end Diagnostic

end CardMachine.Format
