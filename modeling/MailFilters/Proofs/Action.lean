import MailFilters.Action.Read
import MailFilters.Proofs.Folder
import MailFilters.Result

/-!
# Writing actions

* **`nativeName`**, **`valueText`** — the name that the mail client gives an action, and the value
  that goes with it.
* **`IsWritable`** — the actions that a line can hold.
* **`read_written`** — the name and the value of such an action are read as the action.
* **`recipient_filled`** — a recipient is not empty.
-/

namespace MailFilters.Action

open MailFilters.Text

/-- The name that the mail client gives a kind of action. -/
def nativeName : ActionKind → String
  | .addTag => "AddTag"
  | .copyTo => "Copy to folder"
  | .moveTo => "Move to folder"
  | .delete => "Delete"
  | .forward => "Forward"
  | .junkScore => "JunkScore"
  | .markRead => "Mark read"
  | .markFlagged => "Mark flagged"
  | .reply => "Reply"
  | .stopExecution => "Stop execution"

/-- The kind of an action. -/
def kind : Action → ActionKind
  | .addTag _ => .addTag
  | .copyTo _ => .copyTo
  | .moveTo _ => .moveTo
  | .delete => .delete
  | .forward _ => .forward
  | .junkScore _ => .junkScore
  | .markRead => .markRead
  | .markFlagged => .markFlagged
  | .reply _ => .reply
  | .stopExecution => .stopExecution

/-- The value of an action, if it has one. -/
def valueText : Action → Option String
  | .addTag tag => some tag
  | .copyTo folder => some (String.ofList folder.locator)
  | .moveTo folder => some (String.ofList folder.locator)
  | .forward recipient => some recipient.address
  | .junkScore score => some (decimal score)
  | .reply model => some model
  | .delete => none
  | .markRead => none
  | .markFlagged => none
  | .stopExecution => none

/-- Actions whose value is a line that can be read: a tag or a model that is there, a recipient, a
folder with a locator, a score that is not too long. -/
def IsWritable : Action → Prop
  | .addTag tag => tag ≠ "" ∧ IsLine tag.toList
  | .copyTo folder => folder.IsWritable
  | .moveTo folder => folder.IsWritable
  | .forward recipient => IsLine recipient.address.toList
  | .junkScore score => (numeral score).length ≤ maxDigits
  | .reply model => model ≠ "" ∧ IsLine model.toList
  | .delete => True
  | .markRead => True
  | .markFlagged => True
  | .stopExecution => True

theorem ofName_nativeName (kind : ActionKind) :
    ActionKind.ofName? (nativeName kind) = some kind := by
  cases kind <;> decide +kernel

theorem nativeName_isLine (kind : ActionKind) : IsLine (nativeName kind).toList := by
  cases kind <;> exact .of_all (by decide)

theorem required_some {argument : Argument} {value : String} (filled : value ≠ "") :
    ActionKind.required argument (some value) = .ok value := by
  unfold ActionKind.required
  split
  · next missing => simp at missing
  · next empty => exact absurd (Option.some.inj empty) filled
  · next given => rw [Option.some.inj given]

theorem required_eq_ok_iff {argument : Argument} {value : Option String} {text : String} :
    ActionKind.required argument value = .ok text ↔ value = some text ∧ text ≠ "" := by
  constructor
  · intro given
    unfold ActionKind.required at given
    split at given
    · simp at given
    · simp at given
    · next other filled =>
        rw [Except.ok.injEq] at given
        subst given
        exact ⟨rfl, fun empty => filled (by rw [empty])⟩
  · intro given
    obtain ⟨rfl, filled⟩ := given
    exact required_some filled

theorem scoreFrom_decimal {score : Nat} (short : (numeral score).length ≤ maxDigits) :
    ActionKind.scoreFrom (decimal score) = .ok (.junkScore score) := by
  have all : (numeral score).takeWhile isDigit = numeral score :=
    List.takeWhile_eq_self_iff.mpr fun c member =>
      isDigit_of_ascii (numeral_digits score c member)
  unfold ActionKind.scoreFrom
  rw [decimal, String.toList_ofList, all, if_neg (by simpa using numeral_nonempty score),
    readNumeral, if_pos short, decimalValue_numeral]

theorem recipient?_eq_some_iff {action : Action} {address : String} :
    action.recipient? = some address ↔
      ∃ recipient : Recipient, action = .forward recipient ∧ recipient.address = address := by
  cases action <;> simp [recipient?]

/-- A recipient is not empty. -/
theorem recipient_filled (recipient : Recipient) : recipient.address ≠ "" := by
  intro empty
  exact absurd (empty ▸ recipient.valid) (by decide)

theorem decimal_filled (n : Nat) : decimal n ≠ "" := by
  intro empty
  have digits := congrArg String.toList empty
  rw [decimal, String.toList_ofList] at digits
  exact numeral_nonempty n digits

theorem make_folder {folder : Folder} (writable : folder.IsWritable) (action : Folder → Action) :
    (Folder.read (some (String.ofList folder.locator))).map action = .ok (action folder) := by
  rw [writable.read_locator]
  rfl

/-- The name and the value of an action are read as the action. -/
theorem read_written {action : Action} (writable : action.IsWritable) :
    Action.read (nativeName action.kind) action.valueText = .ok action := by
  rw [Action.read, ofName_nativeName]
  cases action with
  | addTag tag =>
      show (ActionKind.required .tag (some tag)).map Action.addTag = _
      rw [required_some writable.1]
      rfl
  | copyTo folder => exact make_folder writable .copyTo
  | moveTo folder => exact make_folder writable .moveTo
  | delete => rfl
  | forward recipient =>
      show ActionKind.required .recipient (some recipient.address) >>= ActionKind.forwardTo = _
      rw [required_some (recipient_filled recipient)]
      exact dif_pos recipient.valid
  | junkScore score =>
      show ActionKind.required .score (some (decimal score)) >>= ActionKind.scoreFrom = _
      rw [required_some (decimal_filled score)]
      exact scoreFrom_decimal writable
  | markRead => rfl
  | markFlagged => rfl
  | reply model =>
      show (ActionKind.required .replyModel (some model)).map Action.reply = _
      rw [required_some writable.1]
      rfl
  | stopExecution => rfl

theorem valueText_isLine {action : Action} (writable : action.IsWritable) {value : String}
    (given : action.valueText = some value) : IsLine value.toList := by
  cases action with
  | addTag tag => exact Option.some.inj given ▸ writable.2
  | copyTo folder =>
      rw [← Option.some.inj given, String.toList_ofList]
      exact Folder.IsWritable.locator_isLine writable
  | moveTo folder =>
      rw [← Option.some.inj given, String.toList_ofList]
      exact Folder.IsWritable.locator_isLine writable
  | delete => simp [valueText] at given
  | forward recipient => exact Option.some.inj given ▸ writable
  | junkScore score =>
      rw [← Option.some.inj given, decimal, String.toList_ofList]
      exact numeral_isLine score
  | markRead => simp [valueText] at given
  | markFlagged => simp [valueText] at given
  | reply model => exact Option.some.inj given ▸ writable.2
  | stopExecution => simp [valueText] at given

end MailFilters.Action
