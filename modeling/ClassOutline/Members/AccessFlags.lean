import ClassOutline.Text.Basic

set_option autoImplicit false

/- Access flags. One bit means different things on classes, fields and methods, so each has a table
of its own. Source text shows some of the flags, in an order of its own. -/

namespace ClassOutline

inductive AccessFlag
  | publicAccess
  | privateAccess
  | protectedAccess
  | static
  | final
  | superCall
  | synchronized
  | volatileField
  | bridge
  | transientField
  | varargs
  | native
  | interfaceType
  | abstractType
  | strictMath
  | synthetic
  | annotationType
  | enumeration
  | moduleUnit
deriving DecidableEq, Repr

namespace AccessFlag

def word : AccessFlag → Text
  | .publicAccess => "public"
  | .privateAccess => "private"
  | .protectedAccess => "protected"
  | .static => "static"
  | .final => "final"
  | .superCall => "super"
  | .synchronized => "synchronized"
  | .volatileField => "volatile"
  | .bridge => "bridge"
  | .transientField => "transient"
  | .varargs => "varargs"
  | .native => "native"
  | .interfaceType => "interface"
  | .abstractType => "abstract"
  | .strictMath => "strictfp"
  | .synthetic => "synthetic"
  | .annotationType => "annotation"
  | .enumeration => "enum"
  | .moduleUnit => "module"

end AccessFlag

namespace AccessFlags

/-- The bits of a flags word with what they mean. -/
abbrev Table := List (Nat × AccessFlag)

/-- Private, protected and static stand on nested classes only. -/
def classTable : Table :=
  [(0x0001, .publicAccess), (0x0010, .final), (0x0020, .superCall), (0x0200, .interfaceType),
    (0x0400, .abstractType), (0x1000, .synthetic), (0x2000, .annotationType),
    (0x4000, .enumeration), (0x8000, .moduleUnit), (0x0002, .privateAccess),
    (0x0004, .protectedAccess), (0x0008, .static)]

def fieldTable : Table :=
  [(0x0001, .publicAccess), (0x0002, .privateAccess), (0x0004, .protectedAccess),
    (0x0008, .static), (0x0010, .final), (0x0040, .volatileField), (0x0080, .transientField),
    (0x1000, .synthetic), (0x4000, .enumeration)]

def methodTable : Table :=
  [(0x0001, .publicAccess), (0x0002, .privateAccess), (0x0004, .protectedAccess),
    (0x0008, .static), (0x0010, .final), (0x0020, .synchronized), (0x0040, .bridge),
    (0x0080, .varargs), (0x0100, .native), (0x0400, .abstractType), (0x0800, .strictMath),
    (0x1000, .synthetic)]

def decode (table : Table) (value : Int) : List AccessFlag :=
  (table.filter fun row => value / row.1 % 2 == 1).map Prod.snd

def interfaceWords : List AccessFlag :=
  [.publicAccess, .privateAccess, .protectedAccess, .static, .final]

def classWords : List AccessFlag :=
  [.publicAccess, .privateAccess, .protectedAccess, .static, .final, .abstractType]

def fieldWords : List AccessFlag :=
  [.publicAccess, .privateAccess, .protectedAccess, .static, .final, .transientField,
    .volatileField]

def methodWords : List AccessFlag :=
  [.publicAccess, .privateAccess, .protectedAccess, .abstractType, .static, .final,
    .synchronized, .native, .strictMath]

/-- Those of `shown` that are among the flags, each with a space behind it. -/
def render (shown flags : List AccessFlag) : Text :=
  (shown.filter flags.contains).flatMap fun flag => flag.word ++ " "

end AccessFlags

end ClassOutline
