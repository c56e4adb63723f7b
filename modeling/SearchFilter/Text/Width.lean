import SearchFilter.Text.Basic
import SearchFilter.Text.Width.Emoji

/-!
# Display width

How many columns a text takes where every column has the same size.  `charWidth` is the width of a
character on its own; but some neighbours join and are counted once: the parts of a ligature, those
of a sequence of emoji, and a character and the selector of its form.  Since it is the right
neighbours that decide, a text is measured from its end, and what has been met there is kept as a
`RightContext`.
-/

namespace SearchFilter.Text

/-! ### Selectors -/

/-- A character that chooses a form of the one before it. -/
inductive FormSelector where
  /-- The form of an emoji. -/
  | emoji
  /-- The form of a text. -/
  | text
  /-- The wide form of a quotation mark. -/
  | wide
  deriving DecidableEq

namespace FormSelector

/-- The selector that a character is. -/
def of? (c : Char) : Option FormSelector :=
  if c = '\ufe0f' then some emoji
  else if c = '\ufe0e' then some text
  else if c = '\ufe01' then some wide
  else none

/-- Whether a character is an ideograph in a square, which is wide in either form. -/
def isSquared (c : Char) : Bool :=
  0x1F200 ≤ c.toNat && c.toNat ≤ 0x1F2FF

/-- Whether the selector gives a character a form with a width of its own. -/
def selects (c : Char) : FormSelector → Bool
  | emoji => twoFormRanges.mem c.toNat
  | text => twoFormRanges.mem c.toNat && isEmoji c && !isSquared c
  | wide => c == '\u2018' || c == '\u2019' || c == '\u201c' || c == '\u201d'

end FormSelector

/-- The forms that selectors next to each other ask for. -/
structure Forms where
  emoji : Bool := false
  text : Bool := false
  wide : Bool := false
  deriving DecidableEq

namespace Forms

/-- One more form. -/
def insert (s : FormSelector) (forms : Forms) : Forms :=
  match s with
  | .emoji => { forms with emoji := true }
  | .text => { forms with text := true }
  | .wide => { forms with wide := true }

/-- The first form that a character has, that of an emoji before that of a text. -/
def find? (c : Char) (forms : Forms) : Option FormSelector :=
  if forms.emoji && FormSelector.emoji.selects c then some .emoji
  else if forms.text && FormSelector.text.selects c then some .text
  else if forms.wide && FormSelector.wide.selects c then some .wide
  else none

end Forms

/-! ### What stands to the right -/

/-- What the characters to the right are a part of. -/
inductive Joint where
  | none
  | ligature (l : Ligature)
  | emoji (e : EmojiTail)
  deriving DecidableEq

namespace Joint

/-- What a character may be the last part of. -/
def ending (c : Char) : Joint :=
  match Ligature.ending? c, EmojiTail.ending? c with
  | some l, _ => ligature l
  | _, some e => emoji e
  | _, _ => none

/-- The columns that a character to the left adds, and what goes on behind it, if the character
belongs to the joint. -/
def before (c : Char) : Joint → Option (Int × Joint)
  | none => Option.none
  | ligature l => (l.before c).map fun (columns, rest) => (columns, (rest.map ligature).getD none)
  | emoji e => (e.before c).map fun (columns, rest) => (columns, emoji rest)

/-- Whether a joiner asks for an emoji to the left. -/
def isJoined : Joint → Bool
  | emoji e => e.isJoined
  | _ => false

/-- What is left of a joint where a selector to its left had no effect. -/
def unselected : Joint → Joint
  | ligature l => ligature l
  | _ => none

end Joint

/-- What stands to the right of a character. -/
structure RightContext where
  joint : Joint := .none
  /-- The forms for which the selectors next to the character ask. -/
  forms : Forms := {}
  deriving DecidableEq

namespace RightContext

/-- The joint to the right of a character for which no selector has an effect. -/
def liveJoint (right : RightContext) : Joint :=
  if right.forms = {} then right.joint else right.joint.unselected

/-- The context to the left of a selector.  Inside a ligature selectors add up, but that of the form
of an emoji must stand next to it. -/
def select (right : RightContext) (s : FormSelector) : RightContext :=
  match right.liveJoint with
  | .ligature l =>
    if l.admitsSelectors then ⟨.ligature l, { right.forms with emoji := false }.insert s⟩
    else ⟨.none, Forms.insert s {}⟩
  | j => ⟨if s = .emoji ∧ j.isJoined then j else .none, Forms.insert s {}⟩

/-- The columns of a character whose form a selector chooses: an emoji takes two columns, unless a
joiner makes it one with those to the right. -/
def selected (right : RightContext) : FormSelector → Int × RightContext
  | .emoji => (if right.joint.isJoined then 0 else 2, { joint := .emoji .emoji })
  | .text => (1, {})
  | .wide => (2, {})

/-- The columns that a character adds, and what it leaves to the next one to the left, where no
selector has an effect on it. -/
def unselected (right : RightContext) (c : Char) : Int × RightContext :=
  if isNarrow c then (1, {})
  else match FormSelector.of? c, right.liveJoint.before c with
    | some s, _ => (0, right.select s)
    | none, some (columns, joint) => (columns, { joint })
    | none, none => (charWidth c, { joint := .ending c })

/-- The columns that a character adds, and what it leaves to the next one to the left. -/
def before (right : RightContext) (c : Char) : Int × RightContext :=
  match right.forms.find? c with
  | some s => right.selected s
  | none => right.unselected c

end RightContext

/-! ### Texts -/

/-- The columns of a text given from its end, beside what stands to its right. -/
def widthFromEnd (right : RightContext) : Text → Int
  | [] => 0
  | c :: s =>
    let (columns, context) := right.before c
    columns + widthFromEnd context s

def width (s : Text) : Nat :=
  (widthFromEnd {} s.reverse).toNat

theorem widthFromEnd_of_isNarrow {s : Text} (h : ∀ c ∈ s, isNarrow c = true) :
    widthFromEnd {} s = s.length := by
  induction s with
  | nil => rfl
  | cons c s ih =>
    have hc := h c List.mem_cons_self
    have step : RightContext.before {} c = (1, {}) := by
      simp [RightContext.before, RightContext.unselected, Forms.find?, hc]
    have rest := ih fun d hd => h d (List.mem_cons_of_mem c hd)
    simp only [widthFromEnd, step, rest, List.length_cons]
    omega

theorem width_of_isNarrow {s : Text} (h : ∀ c ∈ s, isNarrow c = true) : width s = s.length := by
  have hr : ∀ c ∈ s.reverse, isNarrow c = true := fun c hc => h c (List.mem_reverse.mp hc)
  rw [width, widthFromEnd_of_isNarrow hr, List.length_reverse, Int.toNat_natCast]

end SearchFilter.Text
