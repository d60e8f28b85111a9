import ServiceMux.HostAddress
import ServiceMux.Proofs.Numerals
/-! The texts of host addresses. Main statements: which texts spell an address, and why any other is
refused (`parsesExactly`), and which addresses can be read back from their own text, among them all
that were ever read from one (`readsBack`). -/
namespace ServiceMux.HostAddress
open Net
variable {mark : Char} {cs before after host inside tail portText : List Char} {a : HostAddress}

/-! Cutting at the first mark, and at the last. -/

theorem cutFirstAt (absent : mark ∉ before) :
    cutFirst mark (before ++ mark :: after) = some (before, after) := by
  induction before with
  | nil => simp [cutFirst]
  | cons c rest ih =>
    obtain ⟨other, later⟩ := not_or.mp (mt List.mem_cons.mpr absent)
    simp [cutFirst, Ne.symm other, ih later]

theorem cutFirstSplits (h : cutFirst mark cs = some (before, after)) :
    cs = before ++ mark :: after ∧ mark ∉ before := by
  fun_induction cutFirst mark cs generalizing before with
  | case1 => contradiction
  | case2 rest => cases h; simp
  | case3 c rest other ih =>
    obtain ⟨⟨front, back⟩, found, same⟩ := Option.map_eq_some_iff.mp h
    cases same
    obtain ⟨rfl, absent⟩ := ih found
    simp [Ne.symm other, absent]

theorem cutFirstNone : cutFirst mark cs = none ↔ mark ∉ cs := by
  fun_induction cutFirst mark cs with
  | case1 => simp
  | case2 => simp
  | case3 c rest other ih => simp [ih, Ne.symm other]

theorem cutLastNone : cutLast mark cs = none ↔ mark ∉ cs := by
  fun_induction cutLast mark cs with
  | case1 => simp
  | case2 c rest front back found ih => simp_all
  | case3 rest none ih => simp
  | case4 c rest none other ih => simp [ih.mp none, Ne.symm other]

theorem cutLastAt (absent : mark ∉ after) :
    cutLast mark (before ++ mark :: after) = some (before, after) := by
  induction before with
  | nil => simp [cutLast, cutLastNone.mpr absent]
  | cons c rest ih => simp [cutLast, ih]

theorem cutLastSplits (h : cutLast mark cs = some (before, after)) :
    cs = before ++ mark :: after ∧ mark ∉ after := by
  fun_induction cutLast mark cs generalizing before after with
  | case1 => contradiction
  | case2 c rest front back found ih =>
    cases h
    obtain ⟨rfl, absent⟩ := ih found
    exact ⟨rfl, absent⟩
  | case3 rest none =>
    cases h
    exact ⟨rfl, cutLastNone.mp none⟩
  | case4 => contradiction

/-! What a text can be. -/

inductive Spells : List Char → HostAddress → Prop where
  | bracketed {host portText : List Char} {port : UInt16} (literal : isIpLiteral host = true)
      (denotes : Denotes portText port) :
      Spells ('[' :: host ++ ']' :: ':' :: portText) ⟨String.ofList host, port⟩
  | plain {host portText : List Char} {port : UInt16} (named : host ≠ []) (single : ':' ∉ host)
      (bare : host.head? ≠ some '[') (denotes : Denotes portText port) :
      Spells (host ++ ':' :: portText) ⟨String.ofList host, port⟩

inductive NamesNoHost : List Char → Prop where
  | unclosed {rest : List Char} (opened : ']' ∉ rest) : NamesNoHost ('[' :: rest)
  | unreadable {inside tail : List Char} (first : ']' ∉ inside)
      (other : isIpLiteral inside = false) : NamesNoHost ('[' :: inside ++ ']' :: tail)
  | ambiguous {host tail : List Char} (bare : (host ++ ':' :: tail).head? ≠ some '[')
      (last : ':' ∉ tail) (refused : host = [] ∨ ':' ∈ host) : NamesNoHost (host ++ ':' :: tail)

inductive LacksPort : List Char → Prop where
  | bracketed {host tail : List Char} (literal : isIpLiteral host = true)
      (ends : tail.head? ≠ some ':') : LacksPort ('[' :: host ++ ']' :: tail)
  | plain {text : List Char} (bare : text.head? ≠ some '[') (single : ':' ∉ text) : LacksPort text

/-- A host that can be had, and something behind the colon that is no port. -/
inductive SpoilsPort : List Char → Prop where
  | bracketed {host portText : List Char} (literal : isIpLiteral host = true)
      (denotes : ∀ port, ¬ Denotes portText port) :
      SpoilsPort ('[' :: host ++ ']' :: ':' :: portText)
  | plain {host portText : List Char} (named : host ≠ []) (single : ':' ∉ host)
      (bare : host.head? ≠ some '[') (last : ':' ∉ portText)
      (denotes : ∀ port, ¬ Denotes portText port) : SpoilsPort (host ++ ':' :: portText)

inductive Reads : List Char → Except ParseError HostAddress → Prop where
  | address {text : List Char} {a : HostAddress} (spells : Spells text a) : Reads text (.ok a)
  | noHost {text : List Char} (refused : NamesNoHost text) : Reads text (.error .invalidHost)
  | noPort {text : List Char} (refused : LacksPort text) : Reads text (.error .missingPort)
  | spoilt {text : List Char} (refused : SpoilsPort text) : Reads text (.error .invalidPort)

/-! How it is parsed. -/

theorem withPortOk {port : UInt16} (denotes : Denotes portText port) :
    withPort host portText = .ok ⟨String.ofList host, port⟩ := by
  unfold withPort
  rw [parsePortIff.mpr denotes]

theorem withPortError (denotes : ∀ port, ¬ Denotes portText port) :
    withPort host portText = .error .invalidPort := by
  unfold withPort
  rw [parsePortNone.mpr denotes]

theorem parseInside (first : ']' ∉ inside) : parseChars ('[' :: inside ++ ']' :: tail) =
    if isIpLiteral inside then
      match tail with
      | ':' :: portText => withPort inside portText
      | _ => .error .missingPort
    else .error .invalidHost := by
  change parseBracketed (inside ++ ']' :: tail) = _
  have cut : cutFirst ']' (inside ++ ']' :: tail) = some (inside, tail) := cutFirstAt first
  unfold parseBracketed
  split
  · rename_i none
    rw [cut] at none
    contradiction
  · rename_i found
    rw [cut] at found
    cases found
    rfl

theorem parseLiteral (literal : isIpLiteral host = true) :
    parseChars ('[' :: host ++ ']' :: tail) =
      match tail with
      | ':' :: portText => withPort host portText
      | _ => .error .missingPort := by
  rw [parseInside (literalUnbracketed literal).2, if_pos literal]

theorem parseBare (bare : cs.head? ≠ some '[') : parseChars cs = parsePlain cs := by
  unfold parseChars
  split
  · simp at bare
  · rfl

theorem parseAtLast (bare : (host ++ ':' :: tail).head? ≠ some '[') (last : ':' ∉ tail) :
    parseChars (host ++ ':' :: tail) =
      if host = [] ∨ ':' ∈ host then .error .invalidHost else withPort host tail := by
  rw [parseBare bare]
  unfold parsePlain
  rw [cutLastAt last]

theorem headBefore (named : host ≠ []) : (host ++ ':' :: tail).head? = host.head? := by
  cases host with
  | nil => contradiction
  | cons => rfl

theorem parseNamed (named : host ≠ []) (single : ':' ∉ host) (bare : host.head? ≠ some '[')
    (last : ':' ∉ portText) : parseChars (host ++ ':' :: portText) = withPort host portText := by
  rw [parseAtLast (by rwa [headBefore named]) last, if_neg (by simp [named, single])]

theorem Reads.parse {result : Except ParseError HostAddress} (h : Reads cs result) :
    parseChars cs = result := by
  cases h with
  | address spells =>
    cases spells with
    | bracketed literal denotes => rw [parseLiteral literal]; exact withPortOk denotes
    | plain named single bare denotes =>
      rw [parseNamed named single bare denotes.noColon, withPortOk denotes]
  | noHost refused =>
    cases refused with
    | unclosed opened =>
      change parseBracketed _ = _
      unfold parseBracketed
      rw [cutFirstNone.mpr opened]
    | unreadable first other => rw [parseInside first, if_neg (by simp [other])]
    | ambiguous bare last refused => rw [parseAtLast bare last, if_pos refused]
  | noPort refused =>
    cases refused with
    | bracketed literal ends =>
      rw [parseLiteral literal]
      split
      · simp at ends
      · rfl
    | plain bare single =>
      rw [parseBare bare]
      unfold parsePlain
      rw [cutLastNone.mpr single]
  | spoilt refused =>
    cases refused with
    | bracketed literal denotes => rw [parseLiteral literal]; exact withPortError denotes
    | plain named single bare last denotes =>
      rw [parseNamed named single bare last, withPortError denotes]

theorem readsPort {host portText : List Char}
    (spells : ∀ port, Denotes portText port → Spells cs ⟨String.ofList host, port⟩)
    (spoils : (∀ port, ¬ Denotes portText port) → SpoilsPort cs) :
    Reads cs (withPort host portText) := by
  by_cases denotes : ∃ port, Denotes portText port
  · obtain ⟨port, denotes⟩ := denotes
    rw [withPortOk denotes]
    exact .address (spells port denotes)
  · have none := not_exists.mp denotes
    rw [withPortError none]
    exact .spoilt (spoils none)

theorem readsInside (first : ']' ∉ inside) (tail : List Char) :
    Reads ('[' :: inside ++ ']' :: tail) (parseChars ('[' :: inside ++ ']' :: tail)) := by
  rw [parseInside first]
  split
  · rename_i literal
    split
    · exact readsPort (fun _ => .bracketed literal) (.bracketed literal)
    · rename_i other
      refine .noPort (.bracketed literal fun colon => ?_)
      obtain ⟨rest, rfl⟩ := List.head?_eq_some_iff.mp colon
      exact other rest rfl
  · rename_i other
    exact .noHost (.unreadable first (by simpa using other))

theorem readsAtLast (bare : (host ++ ':' :: tail).head? ≠ some '[') (last : ':' ∉ tail) :
    Reads (host ++ ':' :: tail) (parseChars (host ++ ':' :: tail)) := by
  rw [parseAtLast bare last]
  split
  · rename_i refused
    exact .noHost (.ambiguous bare last refused)
  · rename_i fits
    obtain ⟨named, single⟩ := not_or.mp fits
    rw [headBefore named] at bare
    exact readsPort (fun _ => .plain named single bare) (.plain named single bare last)

theorem parseReads (cs : List Char) : Reads cs (parseChars cs) := by
  by_cases bracket : cs.head? = some '['
  · obtain ⟨rest, rfl⟩ := List.head?_eq_some_iff.mp bracket
    cases cut : cutFirst ']' rest with
    | none =>
      have unclosed : NamesNoHost ('[' :: rest) := .unclosed (cutFirstNone.mp cut)
      rw [(Reads.noHost unclosed).parse]
      exact .noHost unclosed
    | some parts =>
      obtain ⟨inside, tail⟩ := parts
      obtain ⟨rfl, first⟩ := cutFirstSplits cut
      exact readsInside first tail
  · cases cut : cutLast ':' cs with
    | none =>
      have lacks : LacksPort cs := .plain bracket (cutLastNone.mp cut)
      rw [(Reads.noPort lacks).parse]
      exact .noPort lacks
    | some parts =>
      obtain ⟨host, tail⟩ := parts
      obtain ⟨rfl, last⟩ := cutLastSplits cut
      exact readsAtLast bracket last

theorem readsIff {result : Except ParseError HostAddress} :
    parseChars cs = result ↔ Reads cs result :=
  ⟨fun same => same ▸ parseReads cs, Reads.parse⟩

theorem readsAddress : Reads cs (.ok a) ↔ Spells cs a :=
  ⟨fun | .address spells => spells, .address⟩

theorem readsNoHost : Reads cs (.error .invalidHost) ↔ NamesNoHost cs :=
  ⟨fun | .noHost refused => refused, .noHost⟩

theorem readsNoPort : Reads cs (.error .missingPort) ↔ LacksPort cs :=
  ⟨fun | .noPort refused => refused, .noPort⟩

theorem readsElse : Reads cs (.error .invalidPort) ↔
    (∀ a, ¬ Spells cs a) ∧ ¬ NamesNoHost cs ∧ ¬ LacksPort cs := by
  constructor
  · intro spoilt
    have error := spoilt.parse
    refine ⟨fun a spells => ?_, fun refused => ?_, fun refused => ?_⟩
    · exact nomatch (Reads.address spells).parse.symm.trans error
    · exact nomatch (Reads.noHost refused).parse.symm.trans error
    · exact nomatch (Reads.noPort refused).parse.symm.trans error
  · rintro ⟨spells, host, port⟩
    have reads := parseReads cs
    generalize parseChars cs = result at reads
    cases reads with
    | address found => exact absurd found (spells _)
    | noHost refused => exact absurd refused host
    | noPort refused => exact absurd refused port
    | spoilt refused => exact .spoilt refused

theorem parsesExactly (text : String) :
    (∀ a, parse text = .ok a ↔ Spells text.toList a) ∧
      (parse text = .error .invalidHost ↔ NamesNoHost text.toList) ∧
      (parse text = .error .missingPort ↔ LacksPort text.toList) ∧
      (parse text = .error .invalidPort ↔
        (∀ a, ¬ Spells text.toList a) ∧ ¬ NamesNoHost text.toList ∧ ¬ LacksPort text.toList) :=
  ⟨fun _ => readsIff.trans readsAddress, readsIff.trans readsNoHost, readsIff.trans readsNoPort,
    readsIff.trans readsElse⟩

/-! Reading back. -/

/-- A host without colons that no bracket opens, or a numeric address with colons. -/
def Writable (a : HostAddress) : Prop :=
  let host := a.host.toList
  (host ≠ [] ∧ ':' ∉ host ∧ host.head? ≠ some '[') ∨ (':' ∈ host ∧ isIpLiteral host = true)

theorem literalNamed (literal : isIpLiteral host = true) : host.head? ≠ some '[' := by
  intro bracket
  exact (literalUnbracketed literal).1 (List.mem_of_mem_head? bracket)

theorem Spells.writable (h : Spells cs a) : a.Writable := by
  unfold Writable
  cases h with
  | @bracketed host _ _ literal =>
    rw [String.toList_ofList]
    by_cases colon : ':' ∈ host
    · exact .inr ⟨colon, literal⟩
    · exact .inl ⟨literalNonempty literal, colon, literalNamed literal⟩
  | plain named single bare =>
    rw [String.toList_ofList]
    exact .inl ⟨named, single, bare⟩

theorem Writable.spells (h : a.Writable) : Spells a.renderChars a := by
  have own : HostAddress.mk (String.ofList a.host.toList) a.port = a := by
    rw [String.ofList_toList]
  unfold renderChars
  dsimp only
  rcases h with ⟨named, single, bare⟩ | ⟨colon, literal⟩
  · have spelt := Spells.plain named single bare (portTextDenotes a.port)
    rw [if_neg single]
    rwa [own] at spelt
  · have spelt := Spells.bracketed literal (portTextDenotes a.port)
    rw [if_pos colon]
    rwa [own] at spelt

theorem parseRender : parse a.render = .ok a ↔ a.Writable := by
  unfold parse render
  rw [String.toList_ofList, readsIff, readsAddress]
  exact ⟨Spells.writable, Writable.spells⟩

theorem readsBack :
    (∀ a : HostAddress, parse a.render = .ok a ↔ a.Writable) ∧
      ∀ text a, parse text = .ok a → a.Writable ∧ parse a.render = .ok a := by
  refine ⟨fun _ => parseRender, fun text a found => ?_⟩
  have writable : a.Writable := (readsAddress.mp (readsIff.mp found)).writable
  exact ⟨writable, parseRender.mpr writable⟩

example : (parse "[1.2.3.4]:+080").toOption.map render = some "1.2.3.4:80" := by decide

end ServiceMux.HostAddress
