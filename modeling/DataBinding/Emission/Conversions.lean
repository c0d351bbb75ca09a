/-
The conversions between an enum and its integers. Every variant has an
integer; of several variants with one integer, the first is what the
integer means. The enum's table of names is entered into the runtime's
registry when it is first asked for.
-/
import DataBinding.EnumRegistry
import DataBinding.Emission.Site

namespace DataBinding.Emission

open Code

variable (site : Site)

-- ================================================================= arms

/-- The variants with their integers: what an enum is converted by. -/
def toIntArms (enum : EnumDescriptor) : List (String × Int32) :=
  enum.values.map fun value => (value.name, value.intValue)

/-- The arms whose integer no earlier arm has. -/
def firstPerInt (taken : List Int32) : List (String × Int32) → List (Int32 × String)
  | [] => []
  | (variant, int) :: rest =>
    if int ∈ taken then firstPerInt taken rest
    else (int, variant) :: firstPerInt (int :: taken) rest

/-- The integers with the variants they mean. -/
def fromIntArms (enum : EnumDescriptor) : List (Int32 × String) :=
  firstPerInt [] (toIntArms enum)

-- ================================================================= code

/-- A variant, as patterns and values name it. -/
def variantToken (variant : String) : Emit Tokens := do
  return leaves "Self ::" ++ [← name variant]

def valueInfo (value : EnumValue) : Tokens :=
  let aliases := value.aliases.map fun (locale, text) =>
    call (site.item "AliasInfo :: new") [[stringLiteral locale], [stringLiteral text]]
  call (site.item "EnumValueInfo :: new")
    [intLiteral value.intValue, [stringLiteral value.name], listOf aliases]

/-- A run-once guard around some statements. -/
def onceGuard (body : Tokens) : Tokens :=
  leaves "static REGISTERED : :: std :: sync :: Once = :: std :: sync :: Once :: new"
    ++ [round [], .leaf ";"]
    ++ leaves "REGISTERED . call_once" ++ [round (.leaf "||" :: body), .leaf ";"]

def enumInfoMethod (enum : EnumDescriptor) : Tokens :=
  let info :=
    leaves "static INFO :" ++ site.item "EnumInfo" ++ leaves "="
      ++ wideCall (site.item "EnumInfo :: new")
          [[stringLiteral enum.fullName], [boolLiteral enum.isFlags],
           listOf (enum.values.map (valueInfo site))]
      ++ leaves ";"
  let entered := onceGuard (call (site.item "enums :: register") [leaves "& INFO"])
  leaves "fn enum_info" ++ [round []] ++ leaves "-> & 'static" ++ site.item "EnumInfo"
    ++ [curly (info ++ entered ++ leaves "& INFO")]

def toIntMethod (enum : EnumDescriptor) : Emit Tokens := do
  let arms ← (toIntArms enum).mapM fun (variant, int) => do
    return (← variantToken variant) ++ leaves "=>" ++ intLiteral int
  return leaves "fn to_int" ++ [round (leaves "self")] ++ leaves "-> i32"
    ++ [curly (leaves "match self" ++ [curly (commaEnded arms)])]

def fromIntMethod (enum : EnumDescriptor) : Emit Tokens := do
  let arms ← (fromIntArms enum).mapM fun (int, variant) => do
    return intLiteral int ++ leaves "=>"
      ++ call (leaves ":: std :: option :: Option :: Some") [← variantToken variant]
  let otherwise := leaves "_ => :: std :: option :: Option :: None"
  return leaves "fn from_int" ++ [round (leaves "value : i32")]
    ++ leaves "-> :: std :: option :: Option < Self >"
    ++ [curly (leaves "match value" ++ [curly (commaEnded (arms ++ [otherwise]))])]

/-- The conversions of one enum. -/
def conversion (enum : EnumDescriptor) : Emit Tokens := do
  let path ← site.itemPath enum.fullName
  let toInt ← toIntMethod enum
  let fromInt ← fromIntMethod enum
  return leaves "impl" ++ site.item "BindableEnum for" ++ path
    ++ [curly (enumInfoMethod site enum ++ toInt ++ fromInt)]

-- ========================================================= registration

/-- A mention of the enum as an implementer of the conversions. -/
def asEnum (path : Tokens) : Tokens :=
  .leaf "<" :: path ++ leaves "as" ++ site.item "BindableEnum >"

/-- The function that asks once for the table of each enum, so that all are
registered. -/
def registration (enumNames : List String) : Emit Tokens := do
  if enumNames.isEmpty then return []
  let paths ← enumNames.mapM site.itemPath
  let asked := paths.flatMap fun path =>
    leaves "let _ =" ++ asEnum site path ++ leaves ":: enum_info" ++ [round [], .leaf ";"]
  return leaves "fn register_enums" ++ [round [], curly (onceGuard [curly asked])]

end DataBinding.Emission
