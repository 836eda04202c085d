/-
# Settings

What the host of a chat decides: whether rolling is enabled, which dice set is rolled when a line
names none, and which lines of other people are answered. These are the Settings of the
specification (section 4.4), with its default values (`Settings.standard`).

A mode for answering others is read from a text (`AutoRespond.parse`). The specification names three
spellings; `on` is a fourth one, and means the same as `present`. Blanks around the text and the
case of the letters `A` to `Z` do not matter, and a text that names no mode is an error that shows
what was looked up, so the trimmed text in lower case.

The filters stand here as they are configured. How they are read from a text with commas is in
`Text/Blank.lean` (`Text.entries`), and what they match in `Chat/Silence.lean`. Where the values
come from is the business of the options. Nothing here is kept on disk.
-/
import DiceRoller.Text.Blank
import DiceRoller.Text.Lowercase

namespace DiceRoller

/-! ## 1. When to answer others -/

/-- When a line with the trigger word is answered. -/
inductive AutoRespond where
  | off
  /-- Only while the host is not marked away. -/
  | whenPresent
  | always
deriving Repr, DecidableEq

/-- The name of a mode. -/
def AutoRespond.text : AutoRespond → String
  | .off => "off"
  | .whenPresent => "present"
  | .always => "always"

/-- A text that names no mode, trimmed and in lower case. -/
structure UnknownMode where
  name : String
deriving Repr, DecidableEq

/-- The error as it is shown. -/
def UnknownMode.message (e : UnknownMode) : String :=
  "unknown auto respond mode `" ++ e.name ++ "`, expected `off`, `present` or `always`"

/-- The mode that a text names, in any case of the letters `A` to `Z` and with blanks around it. -/
def AutoRespond.parse (text : String) : Except UnknownMode AutoRespond :=
  let name := Text.lowerAscii (Text.trim text)
  if name = "off" then .ok .off
  else if name = "on" ∨ name = "present" then .ok .whenPresent
  else if name = "always" then .ok .always
  else .error ⟨name⟩

/-! ## 2. The settings -/

/-- What the host decides. -/
structure Settings where
  enabled : Bool
  /-- The dice set rolled when a line names none. -/
  die : String
  autoRespond : AutoRespond
  /-- The word that a line begins with when it asks for a roll. -/
  trigger : String
  /-- Whose nick contains one of these is not answered. -/
  ignoreNicks : List String
  /-- Nobody is answered in a channel whose name contains one of these. -/
  ignoreChannels : List String
deriving Repr, DecidableEq

/-- The settings of a host that decides nothing. -/
def Settings.standard : Settings where
  enabled := true
  die := "2d10"
  autoRespond := .off
  trigger := "!roll"
  ignoreNicks := []
  ignoreChannels := []

end DiceRoller
