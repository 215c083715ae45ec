/-
  Names and patterns that are bound, functions and classes. `inner` reads the phrases within a
  phrase.
-/
import Frontmatter.Script.Syntax.Phrase

namespace Frontmatter.Script.Syntax

variable (inner : Phrase → Step)

/-! ## Bindings and functions -/

/-- The value that follows an equals sign, if one does. -/
def initializer (inAllowed : Bool) : Step :=
  onlyIf (·.atMark "=") fun i => inner (.assignment inAllowed) i.advance

/-- A name or a pattern that binds names. -/
def binding (exported : Bool) : Step := fun i =>
  if i.atMark "[" then enclosed inner "[" "]" (.bindingElement exported) i
  else if i.atMark "\x7b" then enclosed inner "\x7b" "\x7d" (.bindingProperty exported) i
  else bindingName exported i

/-- An element of a list pattern. -/
def bindingElement (exported : Bool) : Step := fun i =>
  if i.atMark "," then .ok i
  else if i.atMark "..." then inner (.binding exported) i.advance
  else sequence [inner (.binding exported), initializer inner true] i

/-- The name of a property. -/
def propertyName : Step := fun i =>
  match i.token.kind with
  | .word _ _ | .string | .number | .privateName => .ok i.advance
  | .mark "[" => sequence [inner (.assignment true), mark "]"] i.advance
  | _ => unexpected i

/-- A property of an object pattern. -/
def bindingProperty (exported : Bool) : Step := fun i =>
  if i.atMark "..." then inner (.binding exported) i.advance
  else if i.token.isName && !i.ahead.isMark [":"] then
    sequence [bindingName exported, initializer inner true] i
  else sequence [propertyName inner, mark ":", inner (.binding exported), initializer inner true] i

/-- A parameter of a function. -/
def parameter : Step := fun i =>
  if i.atMark "..." then inner (.binding false) i.advance
  else sequence [inner (.binding false), initializer inner true] i

/-- The parameters and the body of a function. -/
def functionTail : Step := sequence [enclosed inner "(" ")" .parameter, inner .block]

/-- Whether a function starts here. -/
def startsFunction (i : Input) : Bool :=
  i.atWord "function" || i.atWordBefore "async" (·.isWord "function")

/-- The name of a function or a class, which may be missing if one of some tokens comes instead. -/
def declaredName (naming : Naming) (instead : Input → Bool) : Step := fun i =>
  match naming with
  | .optional => if instead i then .ok i else bindingName false i
  | .required => bindingName false i
  | .exported => bindingName true i

/-- A function from its first keyword on. -/
def function (naming : Naming) : Step :=
  sequence
    [onlyIf (·.atWord "async") skip, keyword "function", onlyIf (·.atMark "*") skip,
      declaredName naming (·.atMark "("), functionTail inner]

/-- A class from its keyword on. -/
def class_ (naming : Naming) : Step :=
  sequence
    [keyword "class",
      declaredName naming fun i => i.atMark "\x7b" || i.atWord "extends",
      onlyIf (·.atWord "extends") fun i => inner .call i.advance,
      mark "\x7b", inner .members, mark "\x7d"]

/-- The members of a class. -/
def members : Step := fun i =>
  if i.atMark "\x7d" || i.atEnd then .ok i
  else if i.atMark ";" then inner .members i.advance
  else sequence [inner .member, inner .members] i

/-- Whether a word in front of a property only qualifies it: the name of the property is still to
come. -/
def isQualifier (words : List String) (i : Input) : Bool :=
  i.atAnyWord words && !i.ahead.isMark [",", ":", "(", "\x7d", "=", ";"] && i.ahead.kind != .ending

/-- A method behind what qualifies it. -/
def method : Step := sequence [onlyIf (·.atMark "*") skip, propertyName inner, functionTail inner]

/-- A member of a class. -/
def member : Step := fun i =>
  if i.atWord "static" && i.ahead.isMark ["\x7b"] then inner .block i.advance
  else if isQualifier ["static", "accessor"] i then inner .member i.advance
  else if isQualifier ["async", "get", "set"] i && !i.ahead.onNewLine then method inner i.advance
  else if i.atMark "*" then method inner i
  else
    (propertyName inner i).bind fun i =>
      if i.atMark "(" then functionTail inner i else sequence [initializer inner true, semicolon] i

end Frontmatter.Script.Syntax
