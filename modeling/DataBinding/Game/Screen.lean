/-
What the screen shows beside the world: labels, and the settings.
-/
import DataBinding.Live.Model

namespace DataBinding.Game

structure Label where
  visible : Bool := false
  enabled : Bool := false
  text : String := ""
  deriving DecidableEq

namespace Label

def visibleProperty : Accessor Label where
  name := "Visible"
  kind := .single .bool
  part := { get := visible, put := fun visible label => { label with visible } }

def enabledProperty : Accessor Label where
  name := "Enabled"
  kind := .single .bool
  part := { get := enabled, put := fun enabled label => { label with enabled } }

def textProperty : Accessor Label where
  name := "Text"
  kind := .single .string
  part := { get := text, put := fun text label => { label with text } }

def layer : Layer Label where
  typeName := "Label"
  fullName := "game::ui::Label"
  accessors := [visibleProperty, enabledProperty, textProperty]

def model : Model Label where
  initial := {}
  own := layer

end Label

structure Settings where
  volume : Single := Single.zero
  muted : Bool := false
  deriving DecidableEq

namespace Settings

def volumeProperty : Accessor Settings where
  name := "Volume"
  kind := .single .float
  part := { get := volume, put := fun volume settings => { settings with volume } }

def mutedProperty : Accessor Settings where
  name := "Muted"
  kind := .single .bool
  part := { get := muted, put := fun muted settings => { settings with muted } }

def layer : Layer Settings where
  typeName := "Settings"
  fullName := "Settings"
  accessors := [volumeProperty, mutedProperty]

def model : Model Settings where
  initial := {}
  own := layer

end Settings

end DataBinding.Game
