import ServiceDescription.Proofs.Text.Trimming
import ServiceDescription.Proofs.Xml.Alike

/-! Trees written with other prefixes. Where every prefix of a reference is bound after the change
to what it was bound to before, the tree says the same. This covers declarations that are moved,
where the prefixes stay, and prefixes that are renamed throughout, which is harmless as long as no
two of them fall together. -/
namespace ServiceDescription

namespace Xml

/-- A change of prefixes. What stands for a prefix has no colon, and no blank in front, when the
prefix has none. -/
structure Renaming where
  map : String → String
  colon_notMem : ∀ pre, ':' ∉ pre.toList → ':' ∉ (map pre).toList
  head_notBlank : ∀ pre, (∀ c ∈ pre.toList.head?, Text.isBlank c = false) →
    ∀ c ∈ (map pre).toList.head?, Text.isBlank c = false

/-- The change that keeps every prefix. -/
def Renaming.refl : Renaming := ⟨id, fun _ h => h, fun _ h => h⟩

namespace QualifiedName

/-- The prefix of a name that is written with one. -/
def pre? (raw : String) : Option String :=
  let s := Text.trimChars raw.toList
  match s.dropWhile (· ≠ ':') with
  | [] => none
  | _ :: _ => some (String.ofList (s.takeWhile (· ≠ ':')))

/-- A name with its prefix changed, if it has one, and without the blanks around it. -/
def renamed (f : Renaming) (raw : String) : String :=
  let s := Text.trimChars raw.toList
  match s.dropWhile (· ≠ ':') with
  | [] => String.ofList s
  | _ :: rest => f.map (String.ofList (s.takeWhile (· ≠ ':'))) ++ String.ofList (':' :: rest)

section Written
variable {raw : String} {p rest : List Char}

lemma dropWhile_colon (hp : ':' ∉ p) (rest : List Char) :
    (p ++ ':' :: rest).dropWhile (· ≠ ':') = ':' :: rest := by
  rw [List.dropWhile_append_of_pos fun c hc => by simpa using ne_of_mem_of_not_mem hc hp]
  exact List.dropWhile_cons_of_neg (by simp)

lemma takeWhile_colon (hp : ':' ∉ p) (rest : List Char) :
    (p ++ ':' :: rest).takeWhile (· ≠ ':') = p := by
  rw [List.takeWhile_append_of_pos fun c hc => by simpa using ne_of_mem_of_not_mem hc hp,
    List.takeWhile_cons_of_neg (by simp), List.append_nil]

lemma dropWhile_eq_nil {s : List Char} (h : ':' ∉ s) : s.dropWhile (· ≠ ':') = [] :=
  List.dropWhile_eq_nil_iff.mpr fun c hc => by simpa using ne_of_mem_of_not_mem hc h

/-- A name has no colon, or it has a first one. -/
lemma cases_colon (raw : String) :
    ':' ∉ Text.trimChars raw.toList ∨
      ∃ p rest, ':' ∉ p ∧ Text.trimChars raw.toList = p ++ ':' :: rest := by
  by_cases h : ':' ∈ Text.trimChars raw.toList
  · obtain ⟨p, rest, hs, hp⟩ := List.eq_append_cons_of_mem h
    exact .inr ⟨p, rest, hp, hs⟩
  · exact .inl h

lemma resolve_of_notMem (h : ':' ∉ Text.trimChars raw.toList) (scope : Scope) (fallback : String) :
    resolve scope fallback raw = ⟨fallback, Text.trim raw⟩ := by
  simp only [resolve, dropWhile_eq_nil h, Text.trim]

lemma resolve_of_colon (hs : Text.trimChars raw.toList = p ++ ':' :: rest) (hp : ':' ∉ p)
    (scope : Scope) (fallback : String) :
    resolve scope fallback raw = ⟨namespaceOf scope (String.ofList p), String.ofList rest⟩ := by
  simp only [resolve, hs, dropWhile_colon hp, takeWhile_colon hp]

lemma pre?_of_colon (hs : Text.trimChars raw.toList = p ++ ':' :: rest) (hp : ':' ∉ p) :
    pre? raw = some (String.ofList p) := by
  simp only [pre?, hs, dropWhile_colon hp, takeWhile_colon hp]

lemma renamed_of_notMem (h : ':' ∉ Text.trimChars raw.toList) (f : Renaming) :
    renamed f raw = Text.trim raw := by
  simp only [renamed, dropWhile_eq_nil h, Text.trim]

lemma renamed_of_colon (hs : Text.trimChars raw.toList = p ++ ':' :: rest) (hp : ':' ∉ p)
    (f : Renaming) :
    renamed f raw = f.map (String.ofList p) ++ String.ofList (':' :: rest) := by
  simp only [renamed, hs, dropWhile_colon hp, takeWhile_colon hp]

end Written

lemma renamed_refl (raw : String) : renamed .refl raw = Text.trim raw := by
  obtain hnone | ⟨p, rest, hp, hs⟩ := cases_colon raw
  · exact renamed_of_notMem hnone .refl
  · rw [renamed_of_colon hs hp, Text.trim, hs, String.ofList_append]
    rfl

/-- A name says the same under a changed prefix that is bound to the same namespace. -/
theorem same_of_renamed {f : Renaming} {scope scope' : Scope} {raw raw' : String}
    (hraw : Text.trim raw' = renamed f raw)
    (hbound : ∀ p ∈ pre? raw, namespaceOf scope p = namespaceOf scope' (f.map p)) :
    Same scope scope' raw raw' := by
  intro fallback
  obtain hnone | ⟨p, rest, hp, hs⟩ := cases_colon raw
  · rw [renamed_of_notMem hnone] at hraw
    have hnone' : ':' ∉ Text.trimChars raw'.toList := by
      rw [← Text.toList_trim, hraw, Text.toList_trim]
      exact hnone
    rw [resolve_of_notMem hnone, resolve_of_notMem hnone', hraw]
  · have hs' : Text.trimChars raw'.toList = (f.map (String.ofList p)).toList ++ ':' :: rest := by
      rw [← Text.toList_trim, hraw, renamed_of_colon hs hp]
      simp
    have hp' : ':' ∉ (f.map (String.ofList p)).toList := f.colon_notMem _ (by simpa using hp)
    rw [resolve_of_colon hs hp, resolve_of_colon hs' hp', String.ofList_toList,
      hbound _ (pre?_of_colon hs hp)]

/-- Nothing is left to trim of a name that has been renamed. -/
theorem trim_renamed (f : Renaming) (raw : String) : Text.trim (renamed f raw) = renamed f raw := by
  have htight := Text.tight_trimChars raw.toList
  obtain hnone | ⟨p, rest, hp, hs⟩ := cases_colon raw
  · rw [renamed_of_notMem hnone, Text.trim, Text.toList_trim, Text.trimChars_of_tight htight,
      Text.trim]
  · rw [renamed_of_colon hs hp, Text.trim, Text.trimChars_of_tight, String.ofList_toList]
    rw [hs] at htight
    refine ⟨?_, ?_⟩
    · have hpre := f.head_notBlank (String.ofList p) fun c hc =>
        htight.1 c (by rw [String.toList_ofList] at hc; rw [List.head?_append, hc]; rfl)
      intro c hc
      rw [String.toList_append, String.toList_ofList, List.head?_append, Option.mem_def,
        Option.or_eq_some_iff] at hc
      obtain hc | ⟨-, hc⟩ := hc
      · exact hpre c hc
      · obtain rfl : ':' = c := Option.some_inj.mp hc
        decide
    · simpa using htight.2

end QualifiedName

/-- A tag written with other prefixes and with other declarations, under which the prefixes of its
references are bound to what they were bound to. -/
structure Tag.Rewritten (f : Renaming) (scope scope' : Scope) (tag tag' : Tag) : Prop where
  name : tag.name = tag'.name
  value? : ∀ a ∉ referenceNames, tag.value? a = tag'.value? a
  reference : ∀ a ∈ referenceNames,
    Option.Rel (fun raw raw' => Text.trim raw' = QualifiedName.renamed f raw)
      (tag.value? a) (tag'.value? a)
  bound : ∀ a ∈ referenceNames, ∀ raw ∈ tag.value? a, ∀ p ∈ QualifiedName.pre? raw,
    QualifiedName.namespaceOf scope p = QualifiedName.namespaceOf scope' (f.map p)

theorem Tag.Rewritten.alike {f : Renaming} {scope scope' : Scope} {tag tag' : Tag}
    (h : tag.Rewritten f scope scope' tag') : tag.Alike scope scope' tag' where
  name := h.name
  value? := h.value?
  reference a ha := by
    obtain ⟨hv, hv'⟩ | ⟨raw, raw', hv, hv', hraw⟩ := Lookup.cases_of_rel (h.reference a ha)
    · rw [hv, hv']
      exact .none
    · rw [hv, hv']
      exact .some (QualifiedName.same_of_renamed hraw (h.bound a ha raw hv))

/-- A tag whose declarations have been moved, or have been moved around it. -/
lemma Tag.rewritten_redeclared {scope scope' : Scope} {tag : Tag} (declarations : Scope)
    (h : ∀ a ∈ referenceNames, ∀ raw ∈ tag.value? a, ∀ p ∈ QualifiedName.pre? raw,
      QualifiedName.namespaceOf scope p = QualifiedName.namespaceOf scope' p) :
    tag.Rewritten .refl scope scope' { tag with declarations := declarations } where
  name := rfl
  value? _ _ := rfl
  reference a _ := by
    show Option.Rel _ (tag.value? a) (tag.value? a)
    cases tag.value? a with
    | none => exact .none
    | some raw => exact .some (QualifiedName.renamed_refl raw).symm
  bound := h

/-- Two nodes at their places, of which one is the other one written with other prefixes and other
declarations. -/
def Located.Rewritten (f : Renaming) (l l' : Located) : Prop :=
  Node.Match (Tag.Rewritten f) l.outer l'.outer l.node l'.node

theorem Located.Rewritten.alike {f : Renaming} {l l' : Located} (h : l.Rewritten f l') :
    l.Alike l' := Node.Match.mono (fun _ _ _ _ htag => htag.alike) h

/-! Renaming throughout. -/

def Scope.renamed (f : Renaming) (scope : Scope) : Scope := scope.map fun d => (f.map d.1, d.2)

/-- The prefix of an attribute: one that has none keeps none. -/
def Renaming.ofAttribute (f : Renaming) (pre : String) : String :=
  if pre = "" then "" else f.map pre

def Attribute.renamed (f : Renaming) (a : Attribute) : Attribute :=
  if a.name ∈ referenceNames then
    { a with
      value := QualifiedName.renamed f a.value
      own := QualifiedName.renamed f a.own
      pre := f.ofAttribute a.pre }
  else { a with pre := f.ofAttribute a.pre }

def Tag.renamed (f : Renaming) (tag : Tag) : Tag :=
  { tag with
    pre := f.map tag.pre
    declarations := tag.declarations.renamed f
    attributes := tag.attributes.map (·.renamed f)
    defaults := tag.defaults.map (·.renamed f) }

namespace Node

mutual

/-- A tree with every prefix changed, where it is declared and where a reference has it. -/
def renamed (f : Renaming) : Node → Node
  | element tag content => element (tag.renamed f) (renamedAll f content)
  | n => n

def renamedAll (f : Renaming) : List Node → List Node
  | [] => []
  | n :: rest => renamed f n :: renamedAll f rest

end
end Node

section Throughout
variable {f : Renaming}

lemma Scope.namespace?_renamed (hf : f.map.Injective) (scope : Scope) (pre : String) :
    (scope.renamed f).namespace? (f.map pre) = scope.namespace? pre := by
  induction scope with
  | nil => rfl
  | cons d outer ih =>
    obtain ⟨p, uri⟩ := d
    by_cases h : pre = p
    · simp [Scope.renamed, namespace?, h]
    · have hne : f.map pre ≠ f.map p := hf.ne h
      rw [namespace?, namespace?, Scope.renamed, List.map_cons, List.lookup_cons, List.lookup_cons,
        beq_eq_false_iff_ne.mpr h, beq_eq_false_iff_ne.mpr hne]
      exact ih

lemma QualifiedName.namespaceOf_renamed (hf : f.map.Injective) (hxml : f.map "xml" = "xml")
    (scope : Scope) (pre : String) :
    namespaceOf (scope.renamed f) (f.map pre) = namespaceOf scope pre := by
  have hpre : f.map pre = "xml" ↔ pre = "xml" := by
    conv_lhs => rw [← hxml]
    exact hf.eq_iff
  simp only [namespaceOf, Scope.namespace?_renamed hf, hpre]

lemma Tag.value?_renamed (f : Renaming) (tag : Tag) (a : ExpandedName) :
    (tag.renamed f).value? a =
      if a ∈ referenceNames then (tag.value? a).map (QualifiedName.renamed f)
      else tag.value? a := by
  have hname : ∀ b : Attribute, (b.renamed f).name = b.name := by
    intro b
    rw [Attribute.renamed]
    split <;> rfl
  simp only [Tag.value?, Tag.renamed, ← List.map_append, List.find?_map, Function.comp_def, hname,
    Option.map_map]
  cases hb : (tag.attributes ++ tag.defaults).find? (·.name = a) with
  | none => simp
  | some b =>
    have hba : b.name = a := by simpa using List.find?_some hb
    by_cases ha : a ∈ referenceNames <;> simp [Attribute.renamed, hba, ha]

lemma Tag.rewritten_renamed (hf : f.map.Injective) (hxml : f.map "xml" = "xml") (scope : Scope)
    (tag : Tag) : tag.Rewritten f scope (scope.renamed f) (tag.renamed f) where
  name := rfl
  value? a ha := by rw [Tag.value?_renamed, if_neg ha]
  reference a ha := by
    rw [Tag.value?_renamed, if_pos ha]
    cases tag.value? a with
    | none => exact .none
    | some raw => exact .some (QualifiedName.trim_renamed f raw)
  bound _ _ _ _ p _ := (QualifiedName.namespaceOf_renamed hf hxml scope p).symm

mutual

theorem Node.rewritten_renamed (hf : f.map.Injective) (hxml : f.map "xml" = "xml")
    (outer : Scope) (n : Node) :
    Node.Match (Tag.Rewritten f) outer (outer.renamed f) n (n.renamed f) := by
  cases n with
  | element tag content =>
    have hscope : (tag.renamed f).declarations ++ outer.renamed f =
        (tag.declarations ++ outer).renamed f := List.map_append.symm
    rw [renamed]
    refine .element ?_ ?_
    · rw [hscope]
      exact Tag.rewritten_renamed hf hxml _ tag
    · rw [hscope]
      exact Node.rewritten_renamedAll hf hxml _ content
  | text value => exact .text value
  | comment value => exact .comment value value
  | instruction target data => exact .instruction target data target data
  | reference entity => exact .reference entity

theorem Node.rewritten_renamedAll (hf : f.map.Injective) (hxml : f.map "xml" = "xml")
    (scope : Scope) (ns : List Node) :
    Node.MatchAll (Tag.Rewritten f) scope (scope.renamed f) ns (Node.renamedAll f ns) := by
  cases ns with
  | nil => exact .nil
  | cons n rest =>
    exact .cons (Node.rewritten_renamed hf hxml scope n)
      (Node.rewritten_renamedAll hf hxml scope rest)

end

/-- A node written throughout with other prefixes. -/
def Located.renamed (f : Renaming) (l : Located) : Located :=
  ⟨l.path, l.outer.renamed f, l.node.renamed f⟩

theorem Located.rewritten_renamed (hf : f.map.Injective) (hxml : f.map "xml" = "xml")
    (l : Located) : l.Rewritten f (l.renamed f) :=
  Node.rewritten_renamed hf hxml l.outer l.node

end Throughout
end Xml
end ServiceDescription
