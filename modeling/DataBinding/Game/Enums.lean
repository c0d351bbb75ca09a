/-
The enums of the game: the class of a fighter, and the perks, which are
flags.
-/
import DataBinding.Live.EnumTable

namespace DataBinding.Game

def classes : EnumDescriptor where
  fullName := "game::Class"
  isFlags := false
  values :=
    [⟨0, "Warrior", []⟩,
     ⟨1, "Mage", [("en", "Mage"), ("fr", "Magicien")]⟩,
     ⟨2, "Rogue", [(noLocale, "Thief")]⟩]

def perks : EnumDescriptor where
  fullName := "game::Perk"
  isFlags := true
  values := [⟨0, "Empty", []⟩, ⟨1, "Swift", []⟩, ⟨2, "Strong", []⟩, ⟨4, "Lucky", []⟩]

abbrev FighterClass := classes.Variant

abbrev Perk := perks.Variant

def FighterClass.warrior : FighterClass := ⟨0, by decide⟩

def Perk.empty : Perk := ⟨0, by decide⟩

/-- The enum tables that come with the game. -/
def enums : List EnumDescriptor := [classes, perks]

end DataBinding.Game
