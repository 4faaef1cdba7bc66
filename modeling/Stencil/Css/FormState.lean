import Stencil.Css.Parser
/-!
# Form states

The pseudo-classes of links and form controls (`:checked`, `:disabled`, `:read-write`, …) stand
for fixed selector lists over markup elements. These lists are matched with relations and
contents stopping at `iframe` elements, and their type selectors name the markup namespace by
the prefix `html`. Some states need a check that no selector can say; it is added to the last
compound of the last selector of the list: the first submit button of a form for `:default`,
the checked buttons of a radio group for `:indeterminate`, the value against its bounds for the
range states, and the text of a text area for `:placeholder-shown`.

* `withCheck` : a list with a check added to its last compound.
* `formStateList` : the list a form-state pseudo-class stands for.
-/

namespace Stencil.Css

/-- A list with a check added to the last compound of its last selector. -/
def withCheck (c : FormCheck) (l : SelectorList) : SelectorList :=
  match l.reverse with
  | [] => l
  | last :: before =>
    match last.reverse with
    | [] => l
    | (k, compound) :: chain => (before.reverse ++ [(chain.reverse ++ [(k, compound ++ [.check c])])])

def readFormState (text : String) (c : Option FormCheck) : SelectorList :=
  match parseWith true text with
  | .ok sel => match c with
    | some c => withCheck c sel.list
    | none => sel.list
  | .error _ => []

def textControls : String :=
  ":not([type]), [type=\"\"], [type=text], [type=search], [type=url], [type=tel], [type=email], "

def linkList : SelectorList := readFormState "html|*:is(a, area)[href]" none

def checkedList : SelectorList :=
  readFormState ("html|*:is(input[type=checkbox], input[type=radio])[checked], " ++
    "html|option[selected]") none

def defaultList : SelectorList :=
  readFormState ":checked, html|form html|*:is(button, input)[type=\"submit\"]" (some .defaultButton)

/-- `:indeterminate`: boxes so marked, radio buttons of no group or of a group with no checked
button, progress bars without a value. -/
def indeterminateList : SelectorList :=
  readFormState ("html|input[type=\"checkbox\"][indeterminate], " ++
    "html|input[type=\"radio\"]:is(:not([name]), [name=\"\"]):not([checked]), " ++
    "html|progress:not([value]), " ++
    "html|input[type=\"radio\"][name]:not([name='']):not([checked])") (some .indeterminate)

def disableable : String := "input:not([type=hidden]), button, select, textarea, fieldset"

/-- `:disabled`: disabled controls, options of disabled groups, and controls in a disabled
field set outside its first legend. -/
def disabledList : SelectorList :=
  readFormState ("html|*:is(" ++ disableable ++ ", optgroup, option, fieldset)[disabled], " ++
    "html|optgroup[disabled] > html|option, " ++
    "html|fieldset[disabled] > html|*:is(" ++ disableable ++ "), " ++
    "html|fieldset[disabled] > html|*:not(html|legend:nth-of-type(1)) html|*:is(" ++
    disableable ++ ")") none

def enabledList : SelectorList :=
  readFormState ("html|*:is(" ++ disableable ++ ", optgroup, option, fieldset):not(:disabled)") none

def requiredList : SelectorList := readFormState "html|*:is(input, select, textarea)[required]" none

def optionalList : SelectorList :=
  readFormState "html|*:is(input, select, textarea):not([required])" none

/-- `:placeholder-shown`: text controls with a placeholder and no value, and text areas with a
placeholder and no text. -/
def placeholderShownList : SelectorList :=
  readFormState ("html|input:is(" ++ textControls ++ "[type=password], [type=number])" ++
    "[placeholder]:not([placeholder='']):is(:not([value]), [value=\"\"]), " ++
    "html|textarea[placeholder]:not([placeholder=''])") (some .placeholderShown)

/-- `:read-write`: editable text controls and text areas that are neither read-only nor
disabled, and elements whose content is editable. -/
def readWriteList : SelectorList :=
  readFormState ("html|*:is(textarea, input:is(" ++ textControls ++
    "[type=number], [type=password], [type=date], [type=datetime-local], [type=month], " ++
    "[type=time], [type=week])):not([readonly], :disabled), " ++
    "html|*:is([contenteditable=\"\"], [contenteditable=\"true\" i])") none

def readOnlyList : SelectorList := readFormState "html|*:not(:read-write)" none

def boundedInputs : String :=
  "html|input:is([type=\"date\"], [type=\"month\"], [type=\"week\"], [type=\"time\"], " ++
    "[type=\"datetime-local\"], [type=\"number\"], [type=\"range\"]):is([min], [max])"

def inRangeList : SelectorList := readFormState boundedInputs (some .inRange)

def outOfRangeList : SelectorList := readFormState boundedInputs (some .outOfRange)

/-- The list a form-state pseudo-class stands for (with its colon). -/
def formStateList (name : String) : SelectorList :=
  match name with
  | ":link" | ":any-link" => linkList
  | ":checked" => checkedList
  | ":default" => defaultList
  | ":indeterminate" => indeterminateList
  | ":disabled" => disabledList
  | ":enabled" => enabledList
  | ":required" => requiredList
  | ":optional" => optionalList
  | ":placeholder-shown" => placeholderShownList
  | ":read-write" => readWriteList
  | ":read-only" => readOnlyList
  | ":in-range" => inRangeList
  | ":out-of-range" => outOfRangeList
  | _ => []

end Stencil.Css
