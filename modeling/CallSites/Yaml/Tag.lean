/-
  CallSites.Yaml.Tag

  The tags of nodes. A plain scalar without a tag gets the tag of the first form that it has.
-/
import CallSites.Regex.Match
import CallSites.Regex.Parse
import CallSites.Text.Basic

namespace CallSites.Yaml

/-- What a node stands for. -/
inductive Tag where
  | null | bool | int | float | timestamp | binary | str
  | seq | map | set | omap | pairs
  /-- The key whose value is merged into the mapping around it. -/
  | merge
  /-- The key of a default value. -/
  | value
  /-- A tag that documents cannot use. -/
  | unknown
  deriving DecidableEq, Repr

namespace Tag

private def standard : List (String × Tag) :=
  [("null", null), ("bool", bool), ("int", int), ("float", float), ("timestamp", timestamp),
   ("binary", binary), ("str", str), ("seq", seq), ("map", map), ("set", set), ("omap", omap),
   ("pairs", pairs), ("merge", merge), ("value", value)]

/-- What the standard tags begin with. -/
def standardUri : String := "tag:yaml.org,2002:"

/-- The tag with this name. -/
def ofUri (uri : String) : Tag :=
  ((standard.find? fun entry => standardUri ++ entry.1 == uri).map Prod.snd).getD unknown

/-! ## Forms of plain scalars -/

/-- The forms of plain scalars as patterns, in the order in which they are tried. -/
private def forms : List (Tag × String) :=
  [(bool, "yes|Yes|YES|no|No|NO|true|True|TRUE|false|False|FALSE|on|On|ON|off|Off|OFF"),
   (float, "[-+]?[0-9][0-9_]*\\.[0-9_]*([eE][-+][0-9]+)?" ++
      "|\\.[0-9][0-9_]*([eE][-+][0-9]+)?" ++
      "|[-+]?[0-9][0-9_]*(:[0-5]?[0-9])+\\.[0-9_]*" ++
      "|[-+]?\\.(inf|Inf|INF)|\\.(nan|NaN|NAN)"),
   (int, "[-+]?0b[01_]+|[-+]?0[0-7_]+|[-+]?(0|[1-9][0-9_]*)|[-+]?0x[0-9a-fA-F_]+" ++
      "|[-+]?[1-9][0-9_]*(:[0-5]?[0-9])+"),
   (merge, "<<"),
   (null, "~|null|Null|NULL|"),
   (timestamp, "[0-9][0-9][0-9][0-9]-[0-9][0-9]-[0-9][0-9]" ++
      "|[0-9][0-9][0-9][0-9]-[0-9][0-9]?-[0-9][0-9]?([Tt]|[ \\t]+)[0-9][0-9]?:[0-9][0-9]" ++
      ":[0-9][0-9](\\.[0-9]*)?([ \\t]*(Z|[-+][0-9][0-9]?(:[0-9][0-9])?))?"),
   (value, "=")]

/-- The forms as expressions. -/
private def compiledForms : List (Tag × Regex) :=
  forms.filterMap fun form =>
    match Regex.parse form.2 with
    | .ok regex => some (form.1, regex)
    | .error _ => none

/-- The text without a line feed at its end, unless it is nothing else. Forms do not look at it. -/
private def withoutLineFeed (text : String) : String :=
  match text.toList.reverse with
  | '\n' :: c :: rest => String.ofList (c :: rest).reverse
  | _ => text

/-- The tag of a plain scalar. The forms consist of characters. -/
def ofPlain (text : Text) : Tag :=
  let form := text.toString?.bind fun text =>
    compiledForms.find? fun form => form.2.isMatch (withoutLineFeed text)
  (form.map Prod.fst).getD str

end Tag

end CallSites.Yaml
