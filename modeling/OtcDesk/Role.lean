import OtcDesk.Fault
import OtcDesk.Text.Blank
import OtcDesk.Text.Case

namespace OtcDesk

/-- A role that the desk knows. -/
inductive Role where
  | dealer
  | ops
  | compliance
  deriving DecidableEq, Repr

/-- A panel of the desk. -/
inductive Panel where
  | dealer
  | ops
  | compliance
  deriving DecidableEq, Repr

namespace Role

/-- Every role. -/
def all : List Role := [.dealer, .ops, .compliance]

/-- The name of a role. -/
def name : Role → String
  | .dealer => "dealer"
  | .ops => "ops"
  | .compliance => "compliance"

/-- The role of exactly this name. -/
def named? (name : String) : Option Role := all.find? (·.name == name)

/-- The role that a text names, whatever its case and the blanks around it. -/
def recognize? (raw : Option String) : Option Role :=
  named? (Text.lower (Text.strip (raw.getD "")))

theorem named?_name (role : Role) : named? role.name = some role := by
  cases role <;> decide

end Role

namespace Panel

/-- Every panel, in the order of display. -/
def all : List Panel := [.dealer, .ops, .compliance]

/-- The name of a panel. -/
def name : Panel → String
  | .dealer => "dealer"
  | .ops => "ops"
  | .compliance => "compliance"

/-- The panel of exactly this name. -/
def named? (name : String) : Option Panel := all.find? (·.name == name)

/-- A panel admits its own role, and every panel admits operations. -/
def admits : Panel → Role → Bool
  | _, .ops => true
  | .dealer, .dealer => true
  | .compliance, .compliance => true
  | _, _ => false

/-- A known panel admits a role given by name, if that is known and admitted. -/
def admitsNamed (panelName roleName : String) : Except Fault Bool :=
  match named? panelName with
  | some panel => .ok ((Role.named? roleName).any panel.admits)
  | none => .error ⟨.missing, panelName⟩

end Panel

/-- Which panels are visible. -/
structure PanelAccess where
  dealer : Bool
  ops : Bool
  compliance : Bool
  deriving DecidableEq, Repr

namespace PanelAccess

/-- The panels that satisfy a condition. -/
def ofPanels (condition : Panel → Bool) : PanelAccess :=
  ⟨condition .dealer, condition .ops, condition .compliance⟩

/-- The panels of a role. -/
def ofRole (role : Role) : PanelAccess := ofPanels (·.admits role)

/-- The panels of a role given by name, none for an unknown one. -/
def ofRoleName (name : String) : PanelAccess :=
  ofPanels fun panel => (Role.named? name).any panel.admits

/-- Whether a panel is visible. -/
def shows (access : PanelAccess) : Panel → Bool
  | .dealer => access.dealer
  | .ops => access.ops
  | .compliance => access.compliance

/-- The visible panels in the order of display. -/
def visible (access : PanelAccess) : List Panel := Panel.all.filter access.shows

end PanelAccess

end OtcDesk
