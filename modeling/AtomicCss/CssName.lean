import AtomicCss.Text.Kebab

/-!
# CSS property names

Properties are configured under their script spelling (`paddingLeft`) or under their CSS
spelling (`padding-left`); style rules need the latter.
-/

set_option autoImplicit false

namespace AtomicCss.CssName

/-- The vendor marks that open a script spelling. -/
def vendors : List (List Char) :=
  [['W', 'e', 'b', 'k', 'i', 't'], ['M', 'o', 'z'], ['m', 's'], ['M', 's'], ['O']]

/-- What follows the vendor mark, if the name opens with it and goes on with a capital. -/
def afterVendor? (vendor name : List Char) : Option (List Char) :=
  if vendor.isPrefixOf name && ((name.drop vendor.length).head?.any Char.isUpper) then
    some (name.drop vendor.length)
  else none

/-- A spelling with capitals and without dashes is put into kebab case; a vendor mark in
front of it keeps a dash of its own. Any other spelling stands for itself. -/
def ofChars (name : List Char) : List Char :=
  if name.contains '-' || !name.any Char.isUpper then name
  else
    match vendors.findSome? fun vendor => (afterVendor? vendor name).map (vendor, ·) with
    | some (vendor, rest) =>
        '-' :: vendor.map Char.toLower ++ '-' :: Text.kebabCase rest
    | none => Text.kebabCase name

/-- The CSS property name of a configured property name. -/
def ofName (name : String) : String := String.ofList (ofChars name.toList)

end AtomicCss.CssName
