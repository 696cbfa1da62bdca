import ClassOutline.Proofs.Members.Format

set_option autoImplicit false

namespace ClassOutline

open View (numberAt)

namespace Attribute

mutual

/-- The attributes nested in one that begins at `start`, at every depth, each with the place where
it begins. -/
def nestedFrom (start : Nat) : Attribute → List (Nat × Attribute)
  | .code _ body nested => placedFrom (start + 6 + body.width) nested
  | .unknown .. | .constantValue .. | .sourceFile .. | .signature .. | .exceptions ..
  | .deprecated .. | .synthetic .. => []

/-- The attributes of a list that begins at `start`, each right behind the one before it, with
those nested in them. -/
def placedFrom (start : Nat) : List Attribute → List (Nat × Attribute)
  | [] => []
  | record :: rest =>
    (start, record) :: nestedFrom start record ++ placedFrom (start + record.rawLength) rest

end

/-- The second of two placed attributes begins behind the end of the first, or it is nested in it
and lies within its body. -/
def BehindOrWithin (first second : Nat × Attribute) : Prop :=
  first.1 + first.2.rawLength ≤ second.1 ∨
    second ∈ nestedFrom first.1 first.2 ∧ first.1 + 6 ≤ second.1 ∧
      second.1 + second.2.rawLength ≤ first.1 + first.2.rawLength

/-- Placed attributes that lie between two bounds, none across another. -/
structure Nest (pool : ConstantPool) (data : Array UInt8) (start finish : Nat)
    (placed : List (Nat × Attribute)) : Prop where
  stand : ∀ place record, (place, record) ∈ placed → record.StandsAt pool data place
  between : ∀ place record, (place, record) ∈ placed →
    start ≤ place ∧ place + record.rawLength ≤ finish
  apart : placed.Pairwise BehindOrWithin

namespace Nest

variable {pool : ConstantPool} {data : Array UInt8} {start middle finish : Nat}
  {front back : List (Nat × Attribute)}

theorem nil (start finish : Nat) : Nest pool data start finish [] where
  stand := by
    intro place record absent
    cases absent
  between := by
    intro place record absent
    cases absent
  apart := List.Pairwise.nil

theorem widen (nest : Nest pool data middle finish front) {lower upper : Nat}
    (below : lower ≤ middle) (above : finish ≤ upper) : Nest pool data lower upper front where
  stand := nest.stand
  between := by
    intro place record present
    have between := nest.between place record present
    omega
  apart := nest.apart

theorem append (first : Nest pool data start middle front)
    (second : Nest pool data middle finish back) (lower : start ≤ middle)
    (upper : middle ≤ finish) : Nest pool data start finish (front ++ back) where
  stand := by
    intro place record present
    rcases List.mem_append.mp present with here | there
    · exact first.stand place record here
    · exact second.stand place record there
  between := by
    intro place record present
    rcases List.mem_append.mp present with here | there
    · have between := first.between place record here
      omega
    · have between := second.between place record there
      omega
  apart := by
    refine List.pairwise_append.mpr ⟨first.apart, second.apart, ?_⟩
    rintro ⟨place, record⟩ here ⟨behind, other⟩ there
    have ends := (first.between place record here).2
    have begins := (second.between behind other there).1
    exact Or.inl (Nat.le_trans ends begins)

theorem cons {record : Attribute} (stands : record.StandsAt pool data start)
    (nest : Nest pool data (start + 6) (start + record.rawLength) (nestedFrom start record)) :
    Nest pool data start (start + record.rawLength)
      ((start, record) :: nestedFrom start record) where
  stand := by
    intro place other present
    rcases List.mem_cons.mp present with same | nested
    · cases same
      exact stands
    · exact nest.stand place other nested
  between := by
    intro place other present
    rcases List.mem_cons.mp present with same | nested
    · cases same
      omega
    · have between := nest.between place other nested
      omega
  apart := by
    refine List.pairwise_cons.mpr ⟨?_, nest.apart⟩
    rintro ⟨place, other⟩ nested
    exact Or.inr ⟨nested, nest.between place other nested⟩

end Nest

variable {pool : ConstantPool} {data : Array UInt8}

mutual

theorem nest_nestedFrom {start : Nat} : (record : Attribute) →
    record.StandsAt pool data start →
      Nest pool data (start + 6) (start + record.rawLength) (nestedFrom start record)
  | .code header body nested, ⟨_, _, length, stand⟩ => by
    have rest := nest_placedFrom nested stand
    have rawLength : (code header body nested).rawLength = 6 + header.length := rfl
    exact rest.widen (by omega) (by omega)
  | .unknown .., _ | .constantValue .., _ | .sourceFile .., _ | .signature .., _
  | .exceptions .., _ | .deprecated .., _ | .synthetic .., _ => Nest.nil _ _

theorem nest_placedFrom {start : Nat} : (records : List Attribute) →
    AllStandAt pool data start records →
      Nest pool data start (start + totalLength rawLength records) (placedFrom start records)
  | [], _ => Nest.nil _ _
  | record :: rest, ⟨stands, stand⟩ => by
    have first := Nest.cons stands (nest_nestedFrom record stands)
    have others := nest_placedFrom rest stand
    rw [totalLength_cons, ← Nat.add_assoc, placedFrom]
    exact first.append others (by omega) (by omega)

end

/-- An attribute that takes the bytes from a place on: its header says how many there are behind it,
they are its body, and what code holds fills them. -/
structure OccupiesAt (pool : ConstantPool) (data : Array UInt8) (start : Nat)
    (record : Attribute) : Prop where
  rawLength : record.rawLength = 6 + record.header.length
  declared : record.header.length = numberAt data (start + 2) 4
  body : record.header.body = data.extract (start + 6) (start + record.rawLength)
  bodySize : record.header.body.size = record.header.length
  inside : start + record.rawLength ≤ data.size
  code : ∀ header body nested, record = .code header body nested →
    header.length =
        12 + body.code.size + 8 * body.handlers.length +
          totalLength Attribute.rawLength nested ∧
      body.StandsAt pool data (start + 6) nested.length

theorem StandsAt.occupiesAt {start : Nat} {record : Attribute}
    (stands : record.StandsAt pool data start) : record.OccupiesAt pool data start where
  rawLength := rfl
  declared := stands.header.length
  body := by
    have finish : start + record.rawLength = start + 6 + record.header.length :=
      (Nat.add_assoc _ _ _).symm
    rw [finish]
    exact stands.header.body
  bodySize := by
    have inside := stands.header.inside
    rw [stands.header.body, Array.size_extract]
    omega
  inside := stands.inside
  code := by
    rintro header body nested rfl
    obtain ⟨-, bodyStands, length, -⟩ := stands
    exact ⟨length, bodyStands⟩

end Attribute

/-- The attributes of members that begin at `start`, each member right behind the one before it. -/
def Member.placedFrom (start : Nat) : List Member → List (Nat × Attribute)
  | [] => []
  | member :: rest =>
    Attribute.placedFrom (start + 8) member.attributes ++ placedFrom (start + member.rawLength) rest

theorem Member.StandsAt.rawLength_eq {bits : AccessFlags.Bits} {pool : ConstantPool}
    {data : Array UInt8} {start : Nat} {member : Member}
    (stands : member.StandsAt bits pool data start) :
    member.rawLength = 8 + totalLength Attribute.rawLength member.attributes := by
  rw [rawLength, stands.attributesLength]
  rfl

theorem Member.nest_placedFrom {bits : AccessFlags.Bits} {pool : ConstantPool}
    {data : Array UInt8} {start : Nat} {members : List Member}
    (run : Consecutive (StandsAt bits pool data) rawLength start members) :
    Attribute.Nest pool data start (start + totalLength rawLength members)
      (placedFrom start members) := by
  induction members generalizing start with
  | nil => exact Attribute.Nest.nil _ _
  | cons member rest ih =>
    obtain ⟨stands, run⟩ := run
    have first := Attribute.nest_placedFrom member.attributes stands.attributes
    have length := stands.rawLength_eq
    have own : Attribute.Nest pool data start (start + member.rawLength) _ :=
      first.widen (by omega) (by omega)
    rw [totalLength_cons, ← Nat.add_assoc, placedFrom]
    exact own.append (ih run) (by omega) (by omega)

end ClassOutline
