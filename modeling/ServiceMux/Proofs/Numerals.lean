import ServiceMux.Net.IpLiteral
/-! Ports and numeric addresses as texts. Main statements: which texts denote a port, its own among
them (`parsePortIff`, `portTextDenotes`), and which characters a numeric address is made of
(`literalChars`). -/
namespace ServiceMux.Net
variable {text digits cs : List Char} {port : UInt16} {c : Char}

/-- Decimal digits, as many as one likes, perhaps after one plus sign. -/
def Denotes (text : List Char) (port : UInt16) : Prop :=
  ∃ digits, (text = digits ∨ text = '+' :: digits) ∧ digits ≠ [] ∧
    (∀ c ∈ digits, c.isDigit = true) ∧ decimal digits = port.toNat

theorem digitsPortIff : digitsPort digits = some port ↔
    digits ≠ [] ∧ (∀ c ∈ digits, c.isDigit = true) ∧ decimal digits = port.toNat := by
  unfold digitsPort
  constructor
  · intro h
    split at h
    · rename_i valid
      obtain ⟨nonempty, all, small⟩ := valid
      cases h
      exact ⟨nonempty, List.all_eq_true.mp all, (UInt16.toNat_ofNat_of_lt' small).symm⟩
    · contradiction
  · rintro ⟨nonempty, all, same⟩
    have small : decimal digits < 65536 := same ▸ port.toNat_lt
    rw [if_pos ⟨nonempty, List.all_eq_true.mpr all, small⟩, same, UInt16.ofNat_toNat]

theorem parsePortIff : parsePort text = some port ↔ Denotes text port := by
  unfold parsePort
  split
  · rename_i digits
    rw [digitsPortIff]
    refine ⟨fun valid => ⟨digits, .inr rfl, valid⟩, ?_⟩
    rintro ⟨_, rfl | same, valid⟩
    · exact absurd (valid.2.1 '+' List.mem_cons_self) (by decide)
    · cases same
      exact valid
  · rename_i unsigned
    rw [digitsPortIff]
    refine ⟨fun valid => ⟨text, .inl rfl, valid⟩, ?_⟩
    rintro ⟨digits, rfl | rfl, valid⟩
    · exact valid
    · exact absurd rfl (unsigned digits)

theorem parsePortNone : parsePort text = none ↔ ∀ port, ¬ Denotes text port := by
  simp only [Option.eq_none_iff_forall_ne_some, ne_eq, parsePortIff]

theorem Denotes.noColon (h : Denotes text port) : ':' ∉ text := by
  obtain ⟨digits, spelled, -, all, -⟩ := h
  intro member
  have digit : ':' ∈ digits := by
    rcases spelled with rfl | rfl
    · exact member
    · simpa using member
  exact absurd (all ':' digit) (by decide)

theorem portTextDenotes (port : UInt16) : Denotes (portText port) port :=
  ⟨portText port, .inl rfl, Nat.toDigits_ne_nil,
    fun _ => Nat.isDigit_of_mem_toDigits (by decide) (by decide),
    Nat.ofDigitChars_toDigits (by decide) (by decide)⟩

/-! Characters. -/

theorem fieldsKeep {separator : Char} (member : c ∈ cs) (other : c ≠ separator) :
    ∃ field ∈ fields separator cs, c ∈ field := by
  induction cs with
  | nil => contradiction
  | cons first rest ih =>
    unfold fields
    split
    · rename_i separates
      have behind : c ∈ rest := by
        rcases List.mem_cons.mp member with rfl | behind
        · exact absurd separates other
        · exact behind
      obtain ⟨field, inside, has⟩ := ih behind
      exact ⟨field, List.mem_cons_of_mem _ inside, has⟩
    · rcases List.mem_cons.mp member with rfl | behind
      · split
        · exact ⟨[c], by simp, by simp⟩
        · exact ⟨_, List.mem_cons_self, List.mem_cons_self⟩
      · obtain ⟨field, inside, has⟩ := ih behind
        split
        · rename_i none
          rw [none] at inside
          contradiction
        · rename_i others split
          rw [split] at inside
          rcases List.mem_cons.mp inside with rfl | later
          · exact ⟨_, List.mem_cons_self, List.mem_cons_of_mem _ has⟩
          · exact ⟨field, List.mem_cons_of_mem _ later, has⟩

theorem ipv4Chars (h : isIpv4 cs = true) (member : c ∈ cs) : c.isDigit = true ∨ c = '.' := by
  by_cases dot : c = '.'
  · exact .inr dot
  · obtain ⟨octet, inside, has⟩ := fieldsKeep member dot
    simp only [isIpv4, Bool.and_eq_true, List.all_eq_true] at h
    have valid := h.2 octet inside
    simp only [isOctet, Bool.and_eq_true, List.all_eq_true] at valid
    exact .inl (valid.1.1.2 c has)

theorem rowFields {octetsLast : Bool} {row : List (List Char)} {n : Nat}
    (h : rowWidth octetsLast row = some n) {field : List Char} (inside : field ∈ row) :
    isGroup field = true ∨ isIpv4 field = true := by
  fun_induction rowWidth octetsLast row generalizing n with
  | case1 => contradiction
  | case2 last group =>
    rw [List.mem_singleton.mp inside]
    exact .inl group
  | case3 last _ octets =>
    rw [List.mem_singleton.mp inside]
    exact .inr (Bool.and_eq_true_iff.mp octets).2
  | case4 => contradiction
  | case5 first rest _ group ih =>
    obtain ⟨m, width, -⟩ := Option.map_eq_some_iff.mp h
    rcases List.mem_cons.mp inside with rfl | later
    · exact .inl group
    · exact ih width later
  | case6 => contradiction

theorem groupsChars {octetsLast : Bool} {n : Nat} (h : groupsWidth octetsLast cs = some n)
    (member : c ∈ cs) : isHexDigit c = true ∨ c = ':' ∨ c = '.' := by
  by_cases colon : c = ':'
  · exact .inr (.inl colon)
  · obtain ⟨field, inside, has⟩ := fieldsKeep member colon
    unfold groupsWidth at h
    rw [if_neg (List.ne_nil_of_mem member)] at h
    rcases rowFields h inside with group | octets
    · simp only [isGroup, Bool.and_eq_true, List.all_eq_true] at group
      exact .inl (group.2 c has)
    · rcases ipv4Chars octets has with digit | dot
      · exact .inl (by simp [isHexDigit, digit])
      · exact .inr (.inr dot)

theorem cutGapSplits {before after : List Char} (h : cutGap cs = some (before, after)) :
    cs = before ++ ':' :: ':' :: after := by
  fun_induction cutGap cs generalizing before with
  | case1 rest => cases h; rfl
  | case2 => contradiction
  | case3 first rest _ ih =>
    obtain ⟨⟨front, back⟩, found, same⟩ := Option.map_eq_some_iff.mp h
    cases same
    rw [ih found, List.cons_append]

theorem ipv6Chars (h : isIpv6 cs = true) (member : c ∈ cs) :
    isHexDigit c = true ∨ c = ':' ∨ c = '.' := by
  unfold isIpv6 at h
  split at h
  · exact groupsChars (beq_iff_eq.mp h) member
  · rename_i before after gap
    split at h
    · rename_i left right
      rw [cutGapSplits gap] at member
      simp only [List.mem_append, List.mem_cons] at member
      rcases member with front | rfl | rfl | back
      · exact groupsChars left front
      · exact .inr (.inl rfl)
      · exact .inr (.inl rfl)
      · exact groupsChars right back
    · contradiction

theorem literalChars (h : isIpLiteral cs = true) (member : c ∈ cs) :
    isHexDigit c = true ∨ c = ':' ∨ c = '.' := by
  rcases Bool.or_eq_true_iff.mp h with four | six
  · rcases ipv4Chars four member with digit | dot
    · exact .inl (by simp [isHexDigit, digit])
    · exact .inr (.inr dot)
  · exact ipv6Chars six member

theorem literalNonempty (h : isIpLiteral cs = true) : cs ≠ [] := by
  rintro rfl
  exact absurd h (by decide)

theorem literalUnbracketed (h : isIpLiteral cs = true) : '[' ∉ cs ∧ ']' ∉ cs :=
  ⟨fun member => absurd (literalChars h member) (by decide),
    fun member => absurd (literalChars h member) (by decide)⟩

end ServiceMux.Net
