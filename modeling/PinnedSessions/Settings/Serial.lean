import PinnedSessions.Guest.Serial
import PinnedSessions.Settings.Basic

/-! # Settings as JSON

Settings are an object with their six plain options in a fixed order; the resolver is a live object
and is never written. Reading takes an object whose missing members have their defaults and whose
unknown members are ignored, while a known one must not come twice; or an array of up to six options
in that order.
-/

namespace PinnedSessions.Settings

/-- The keys of the options, in order. -/
def keys : List String :=
  ["interactive", "include_paths", "shared_modules", "redirect_output_streams", "isolated",
    "postpone_init"]

/-- A list of texts. -/
def textsJson (ss : List String) : Json := .array (ss.map Json.text)

/-- The options as JSON, in order. -/
def options (c : Settings) : List Json :=
  [.bool c.interactive, textsJson c.searchPath, textsJson c.sharedModules, .bool c.redirectOutput,
    .bool c.isolated, .bool c.postponed]

/-- Settings as JSON. -/
def toJson (c : Settings) : Json := .ofMembers (keys.zip c.options)

/-- An option, or its default where it is absent. -/
def orDefault {α : Type} (read : Json → Option α) (absent : α) : Option Json → Option α
  | some j => read j
  | none => some absent

/-- Settings from options that may be absent. -/
def ofOptions? (interactive searchPath sharedModules redirect isolated postponed : Option Json) :
    Option Settings := do
  let interactive ← orDefault Json.bool? default.interactive interactive
  let searchPath ← orDefault (Json.items? Json.text?) default.searchPath searchPath
  let sharedModules ← orDefault (Json.items? Json.text?) default.sharedModules sharedModules
  let redirect ← orDefault Json.bool? default.redirectOutput redirect
  let isolated ← orDefault Json.bool? default.isolated isolated
  let postponed ← orDefault Json.bool? default.postponed postponed
  pure ⟨interactive, searchPath, sharedModules, redirect, isolated, postponed, none⟩

/-- Read settings. -/
def ofJson? : Json → Option Settings
  | .array xs =>
    if xs.length ≤ keys.length then
      ofOptions? xs[0]? xs[1]? xs[2]? xs[3]? xs[4]? xs[5]?
    else none
  | .object ms =>
    if Json.keysReadable ms then do
      let interactive ← Json.member? "interactive" ms
      let searchPath ← Json.member? "include_paths" ms
      let sharedModules ← Json.member? "shared_modules" ms
      let redirect ← Json.member? "redirect_output_streams" ms
      let isolated ← Json.member? "isolated" ms
      let postponed ← Json.member? "postpone_init" ms
      ofOptions? interactive searchPath sharedModules redirect isolated postponed
    else none
  | _ => none

/-- The JSON text of settings. -/
def jsonText (c : Settings) : String := c.toJson.compact

/-- Read settings from JSON text. -/
def ofJsonText? (s : String) : Option Settings := (Json.parse s.toList).bind ofJson?

end PinnedSessions.Settings
