import SigmaQuery.Proofs.Query.Failures

/-!
# Network terms

A network value has a term in the query language when it is an IPv4 prefix of 8, 16, 24 or 32
bits: the decimal octets its prefix fixes, joined by dots, then `.*` unless all four are fixed.
The address a prefix is written with, such as `10.1.2.3/8`, may have bits set past the prefix;
clearing them leaves the fixed octets as they are.

The term is right for its network: the dotted-decimal text of an IPv4 address matches the term,
`*` standing for any sequence of characters, exactly when the address begins with the prefix's
bits (`expand_network_matches_leading_bits`). This rests on the dot after the fixed octets: a
decimal octet holds no dot, so the fixed part of the term ends where an octet of the address
does, and `10.*` matches no address of `100.0.0.0/8`.
-/

namespace SigmaQuery

namespace Net

/-! ### The address of an IPv4 prefix -/

/-- Whether numbers are the four octets of an IPv4 address. -/
def IsV4Octets (octets : List Nat) : Prop := octets.length = 4 ∧ ∀ o ∈ octets, o < 256

/-- Reading dotted decimal fields keeps every field below 256 and ends with four of them. -/
theorem readDottedQuad_go_octets {input : String} :
    ∀ {cs : List Char} {first : Bool} {prev : Option Char} {val digits pos : Nat}
      {fields r : List Nat},
      readDottedQuad.go input cs first prev val digits pos fields = .ok r →
      fields.length = pos → pos ≤ 3 → val ≤ 255 → (∀ o ∈ fields, o ≤ 255) → IsV4Octets r
  | [], first, prev, val, digits, pos, fields, r, h, hlen, hpos, hval, hfields => by
    unfold readDottedQuad.go at h
    split at h
    · cases h
    · -- the text ends after the fourth field
      cases h
      refine ⟨by simp only [List.length_append, List.length_singleton]; omega,
        List.forall_mem_append.mpr ⟨fun o ho => ?_, List.forall_mem_singleton.mpr (by omega)⟩⟩
      have := hfields o ho
      omega
  | c :: rest, first, prev, val, digits, pos, fields, r, h, hlen, hpos, hval, hfields => by
    unfold readDottedQuad.go at h
    split at h
    · -- a digit extends the field, which may not pass 255
      split at h
      · cases h
      · dsimp only at h
        split at h
        · cases h
        · exact readDottedQuad_go_octets h hlen hpos (by omega) hfields
    · split at h
      · -- a dot closes the field, unless it is the fourth
        split at h
        · cases h
        · split at h
          · cases h
          · next hthree =>
            refine readDottedQuad_go_octets h (by simp [hlen]) ?_ (Nat.zero_le _) ?_
            · simp only [beq_iff_eq] at hthree
              omega
            · exact List.forall_mem_append.mpr ⟨hfields, List.forall_mem_singleton.mpr hval⟩
      · cases h

/-- Dotted decimal fields read are the octets of an IPv4 address. -/
theorem readDottedQuad_octets {input : String} {cs : List Char} {octets : List Nat}
    (h : readDottedQuad input cs = .ok octets) : IsV4Octets octets :=
  readDottedQuad_go_octets h rfl (by decide) (Nat.zero_le _) (by simp)

/-- The IPv6 reader gives IPv6 addresses only. -/
theorem readV6_ne_v4 (input : String) (octets : List Nat) : readV6 input ≠ .ok (.v4 octets) := by
  intro h
  unfold readV6 at h
  dsimp only at h
  -- every branch is a failure or an IPv6 address
  repeat' split at h
  all_goals simp at h

/-- An IPv4 address is read as dotted decimal fields. -/
theorem parseAddress_v4 {s : String} {octets : List Nat} (h : parseAddress s = .ok (.v4 octets)) :
    readDottedQuad s s.toList = .ok octets := by
  unfold parseAddress at h
  split at h
  · cases hq : readDottedQuad s s.toList with
    | error e => rw [hq] at h; cases h
    | ok o => rw [hq] at h; cases h; rfl
  · exact absurd h (readV6_ne_v4 s octets)
  · cases h
  · cases h

/-- The prefix length of an IPv4 prefix is read once the address is. -/
theorem parsePrefix_finish_v4 {addr : Address} {maxBits : Nat} {bitsText : List Char}
    {f : String → String} {p : Prefix}
    (h : parsePrefix.finish addr maxBits bitsText (fun msg => .error (f msg)) = .ok p) :
    p.address = addr ∧ p.bits ≤ maxBits := by
  unfold parsePrefix.finish at h
  split at h
  · cases h
  · split at h
    · cases h
    · next hbits =>
      cases h
      exact ⟨rfl, Nat.le_of_not_lt hbits⟩

/-- An IPv4 prefix has four octets below 256 and at most 32 bits. -/
theorem parsePrefix_v4 {s : String} {p : Prefix} {octets : List Nat} (h : parsePrefix s = .ok p)
    (ha : p.address = .v4 octets) : IsV4Octets octets ∧ p.bits ≤ 32 := by
  unfold parsePrefix at h
  dsimp only at h
  split at h
  · cases h
  · split at h
    · cases h
    · next addr haddr =>
      split at h
      · -- an IPv6 address stays one
        split at h
        · cases h
        · rw [(parsePrefix_finish_v4 h).1] at ha
          cases ha
      · next o =>
        obtain ⟨hp, hbits⟩ := parsePrefix_finish_v4 h
        rw [hp] at ha
        cases ha
        exact ⟨readDottedQuad_octets (parseAddress_v4 haddr), hbits⟩

/-! ### The bits of an address -/

/-- The bits of an octet, the most significant first. -/
def octetBits (o : Nat) : List Bool := (List.range 8).reverse.map o.testBit

/-- The bits of an address, octet after octet. -/
def addressBits (octets : List Nat) : List Bool := octets.flatMap octetBits

@[simp] theorem length_octetBits (o : Nat) : (octetBits o).length = 8 := by
  simp [octetBits]

/-- An octet is given by its bits. -/
theorem octetBits_inj {o o' : Nat} (h : o < 256) (h' : o' < 256) :
    octetBits o = octetBits o' ↔ o = o' := by
  refine ⟨fun hbits => Nat.eq_of_testBit_eq fun i => ?_, fun he => he ▸ rfl⟩
  by_cases hi : i < 8
  · exact List.map_inj_left.mp hbits i (by simpa using hi)
  · -- past the eighth bit both octets are zero
    have hpow : 256 ≤ 2 ^ i := by
      calc 256 = 2 ^ 8 := by norm_num
        _ ≤ 2 ^ i := Nat.pow_le_pow_right (by norm_num) (by omega)
    rw [Nat.testBit_eq_false_of_lt (by omega), Nat.testBit_eq_false_of_lt (by omega)]

/-- The first `8 k` bits of an address are those of its first `k` octets. -/
theorem take_addressBits (k : Nat) :
    ∀ x : List Nat, (addressBits x).take (8 * k) = addressBits (x.take k)
  | [] => by simp [addressBits]
  | o :: x => by
    cases k with
    | zero => simp [addressBits]
    | succ k =>
      have h := take_addressBits k x
      simp only [addressBits] at h ⊢
      rw [List.flatMap_cons, show 8 * (k + 1) = (octetBits o).length + 8 * k by
        simp only [length_octetBits]; ring, List.take_length_add_append, h, List.take_succ_cons,
        List.flatMap_cons]

/-- Addresses of octets below 256 with as many octets are given by their bits. -/
theorem addressBits_inj :
    ∀ {x y : List Nat}, (∀ o ∈ x, o < 256) → (∀ o ∈ y, o < 256) → x.length = y.length →
      (addressBits x = addressBits y ↔ x = y)
  | [], [], _, _, _ => by simp
  | o :: x, o' :: y, hx, hy, hlen => by
    simp only [addressBits, List.flatMap_cons, List.cons.injEq]
    constructor
    · intro h
      obtain ⟨hhead, htail⟩ := List.append_inj h (by simp)
      refine ⟨(octetBits_inj (hx o List.mem_cons_self) (hy o' List.mem_cons_self)).mp hhead, ?_⟩
      exact (addressBits_inj (fun a ha => hx a (List.mem_cons_of_mem _ ha))
        (fun a ha => hy a (List.mem_cons_of_mem _ ha)) (by simpa using hlen)).mp htail
    · rintro ⟨rfl, rfl⟩
      rfl
  | [], _ :: _, _, _, hlen | _ :: _, [], _, _, hlen => by simp at hlen

/-- Two addresses share their first `8 k` bits exactly when they share their first `k`
octets. -/
theorem take_addressBits_eq_iff {x y : List Nat} (hx : ∀ o ∈ x, o < 256)
    (hy : ∀ o ∈ y, o < 256) {k : Nat} (hkx : k ≤ x.length) (hky : k ≤ y.length) :
    (addressBits x).take (8 * k) = (addressBits y).take (8 * k) ↔ x.take k = y.take k := by
  rw [take_addressBits, take_addressBits]
  exact addressBits_inj (fun o ho => hx o (List.mem_of_mem_take ho))
    (fun o ho => hy o (List.mem_of_mem_take ho)) (by simp; omega)

/-- The octets of an address with every bit after the first `bits` cleared: the `i`-th octet
keeps its first `bits - 8 i` bits, all eight when there are as many. -/
def maskOctets (bits : Nat) (octets : List Nat) : List Nat :=
  octets.mapIdx fun i o => o / 2 ^ (8 - min 8 (bits - 8 * i)) * 2 ^ (8 - min 8 (bits - 8 * i))

/-- Masking to a whole number of octets keeps those octets. -/
theorem take_maskOctets {bits : Nat} (h : bits % 8 = 0) (octets : List Nat) :
    (maskOctets bits octets).take (bits / 8) = octets.take (bits / 8) := by
  apply List.ext_getElem (by simp [maskOctets])
  intro i h1 h2
  have hi : i < bits / 8 := by simp at h2; omega
  have hkeep : min 8 (bits - 8 * i) = 8 := by omega
  simp [maskOctets, hkeep]

/-! ### Dotted-decimal text -/

/-- The dotted-decimal text of octets: each in decimal, joined by dots. -/
def dottedDecimal (octets : List Nat) : String := ".".intercalate (octets.map toString)

/-- Every character of a number's decimal text is a digit. -/
theorem isDigit_of_mem_toString {o : Nat} {c : Char} (h : c ∈ (toString o).toList) :
    c.isDigit = true := by
  rw [Nat.toString_eq_repr, Nat.toList_repr] at h
  exact Nat.isDigit_of_mem_toDigits (by norm_num) (by norm_num) h

theorem dot_not_mem_toString (o : Nat) : '.' ∉ (toString o).toList := fun h => by
  simpa using isDigit_of_mem_toString h

/-- A number is given by its decimal text. -/
theorem toString_toList_inj {a b : Nat} : (toString a).toList = (toString b).toList ↔ a = b := by
  rw [String.toList_inj, Nat.toString_eq_repr, Nat.toString_eq_repr, Nat.repr_inj]

@[simp] theorem dottedDecimal_nil : dottedDecimal [] = "" := rfl

theorem toList_dottedDecimal_singleton (o : Nat) :
    (dottedDecimal [o]).toList = (toString o).toList := by
  simp [dottedDecimal]

theorem toList_dottedDecimal_cons_cons (o o' : Nat) (rest : List Nat) :
    (dottedDecimal (o :: o' :: rest)).toList =
      (toString o).toList ++ '.' :: (dottedDecimal (o' :: rest)).toList := by
  simp [dottedDecimal, String.toList_intercalate]

/-- A dotted-decimal text holds digits and dots only. -/
theorem isDigit_of_mem_dottedDecimal : ∀ {octets : List Nat} {c : Char},
    c ∈ (dottedDecimal octets).toList → c.isDigit = true ∨ c = '.'
  | [], _, h => by simp at h
  | [o], _, h => .inl (isDigit_of_mem_toString (by rwa [toList_dottedDecimal_singleton] at h))
  | o :: o' :: rest, c, h => by
    rw [toList_dottedDecimal_cons_cons] at h
    rcases List.mem_append.mp h with h | h
    · exact .inl (isDigit_of_mem_toString h)
    · rcases List.mem_cons.mp h with h | h
      · exact .inr h
      · exact isDigit_of_mem_dottedDecimal h

/-- A text without a dot, then a dot, begins another such text, then a dot, exactly when the
two texts are the same and what follows the first dot begins what follows the second. -/
theorem append_dot_prefix_iff : ∀ {u v r w : List Char}, '.' ∉ u → '.' ∉ v →
    (u ++ '.' :: r <+: v ++ '.' :: w ↔ u = v ∧ r <+: w)
  | [], [], _, _, _, _ => by simp
  | [], x :: v, _, _, _, hv => by
    simp only [List.nil_append, List.cons_append, List.cons_prefix_cons, List.nil_eq,
      reduceCtorEq, false_and, iff_false, not_and]
    rintro rfl
    simp at hv
  | y :: u, [], _, _, hu, _ => by
    simp only [List.cons_append, List.nil_append, List.cons_prefix_cons, reduceCtorEq,
      false_and, iff_false, not_and]
    rintro rfl
    simp at hu
  | y :: u, x :: v, r, w, hu, hv => by
    simp only [List.cons_append, List.cons_prefix_cons, List.cons.injEq]
    rw [append_dot_prefix_iff (fun h => hu (List.mem_cons_of_mem _ h))
      (fun h => hv (List.mem_cons_of_mem _ h))]
    tauto

/-- Texts without a dot, each before a dot, are the same and so is what follows exactly when
the joined texts are. -/
theorem append_dot_eq_iff {u v r w : List Char} (hu : '.' ∉ u) (hv : '.' ∉ v) :
    u ++ '.' :: r = v ++ '.' :: w ↔ u = v ∧ r = w := by
  constructor
  · intro h
    have hp : u ++ '.' :: r <+: v ++ '.' :: w := by rw [h]
    obtain ⟨rfl, -⟩ := (append_dot_prefix_iff hu hv).mp hp
    simpa using h
  · rintro ⟨rfl, rfl⟩
    rfl

/-- Octets with as many as others have the same dotted-decimal text only when they are the
same. -/
theorem dottedDecimal_inj : ∀ {a x : List Nat}, a.length = x.length →
    ((dottedDecimal a).toList = (dottedDecimal x).toList ↔ a = x)
  | [], [], _ => by simp
  | [o], [o'], _ => by
    rw [toList_dottedDecimal_singleton, toList_dottedDecimal_singleton, toString_toList_inj]
    simp
  | o :: b :: a, o' :: b' :: x, hlen => by
    rw [toList_dottedDecimal_cons_cons, toList_dottedDecimal_cons_cons,
      append_dot_eq_iff (dot_not_mem_toString o) (dot_not_mem_toString o'), toString_toList_inj,
      dottedDecimal_inj (by simpa using hlen)]
    simp
  | [], _ :: _, hlen | _ :: _, [], hlen | [_], _ :: _ :: _, hlen | _ :: _ :: _, [_], hlen => by
    simp at hlen

/-- The dotted-decimal text of some octets, then a dot, begins that of an address with more
octets exactly when the address begins with those octets. -/
theorem dottedDecimal_dot_prefix_iff : ∀ {a x : List Nat}, a ≠ [] → a.length < x.length →
    ((dottedDecimal a).toList ++ ['.'] <+: (dottedDecimal x).toList ↔ a = x.take a.length)
  | [o], o' :: b' :: x, _, _ => by
    rw [toList_dottedDecimal_singleton, toList_dottedDecimal_cons_cons,
      append_dot_prefix_iff (dot_not_mem_toString o) (dot_not_mem_toString o'), toString_toList_inj]
    simp
  | o :: b :: a, o' :: x, _, hlen => by
    obtain ⟨b', x', rfl⟩ : ∃ b' x', x = b' :: x' := by
      cases x with
      | nil => simp at hlen
      | cons b' x' => exact ⟨b', x', rfl⟩
    rw [toList_dottedDecimal_cons_cons, toList_dottedDecimal_cons_cons, List.append_assoc,
      List.cons_append,
      append_dot_prefix_iff (dot_not_mem_toString o) (dot_not_mem_toString o'), toString_toList_inj,
      dottedDecimal_dot_prefix_iff (by simp) (by simpa using hlen)]
    simp
  | [], _, hne, _ => absurd rfl hne
  | _ :: _, [], _, hlen | [_], [_], _, hlen => by simp at hlen

end Net

namespace Query

/-! ### Matching with wildcards -/

/-- Whether a text matches a pattern in which `*` stands for any sequence of characters and
every other character for itself. -/
def globMatches : List Char → List Char → Bool
  | [], t => t.isEmpty
  | '*' :: p, t => (List.range (t.length + 1)).any fun k => globMatches p (t.drop k)
  | _ :: _, [] => false
  | c :: p, d :: t => c == d && globMatches p t

/-- A pattern without wildcards matches only itself. -/
theorem globMatches_literal :
    ∀ {p t : List Char}, '*' ∉ p → (globMatches p t = true ↔ t = p)
  | [], t, _ => by simp [globMatches]
  | c :: p, [], hp => by
    have hc : c ≠ '*' := fun h => hp (h ▸ List.mem_cons_self)
    simp [globMatches.eq_3 _ _ hc]
  | c :: p, d :: t, hp => by
    have hc : c ≠ '*' := fun h => hp (h ▸ List.mem_cons_self)
    rw [globMatches.eq_4 _ _ _ _ hc, Bool.and_eq_true, beq_iff_eq,
      globMatches_literal (fun h => hp (List.mem_cons_of_mem _ h)), List.cons.injEq]
    tauto

/-- A pattern without wildcards, then one wildcard, matches exactly the texts it begins. -/
theorem globMatches_append_star : ∀ {p t : List Char}, '*' ∉ p →
    (globMatches (p ++ ['*']) t = true ↔ p <+: t)
  | [], t, _ => by
    simp only [List.nil_append, globMatches, List.any_eq_true, List.mem_range, List.isEmpty_iff,
      List.drop_eq_nil_iff, List.nil_prefix, iff_true]
    exact ⟨t.length, by omega, le_rfl⟩
  | c :: p, [], hp => by
    have hc : c ≠ '*' := fun h => hp (h ▸ List.mem_cons_self)
    simp [globMatches.eq_3 _ _ hc]
  | c :: p, d :: t, hp => by
    have hc : c ≠ '*' := fun h => hp (h ▸ List.mem_cons_self)
    rw [List.cons_append, globMatches.eq_4 _ _ _ _ hc, Bool.and_eq_true, beq_iff_eq,
      globMatches_append_star (fun h => hp (List.mem_cons_of_mem _ h)), List.cons_prefix_cons]

/-! ### Terms of networks -/

/-- The prefix lengths a network term can be written for: whole octets, one at least. -/
theorem mem_octetLengths {bits : Nat} :
    bits ∈ [8, 16, 24, 32] ↔ bits ≠ 0 ∧ bits % 8 = 0 ∧ bits ≤ 32 := by
  simp only [List.mem_cons, List.not_mem_nil, or_false]
  omega

/-- A network's term is the dotted decimal octets its prefix fixes, then `.*` unless all four
are fixed. -/
theorem networkTerm_ok {value t : String} (h : networkTerm value = .ok t) :
    ∃ p octets, Net.parsePrefix (Text.trimBlank value) = .ok p ∧ p.address = .v4 octets ∧
      p.bits ≠ 0 ∧ p.bits % 8 = 0 ∧
      t = Net.dottedDecimal (octets.take (p.bits / 8)) ++ (if p.bits < 32 then ".*" else "") := by
  unfold networkTerm at h
  split at h
  · cases h
  · next p hp =>
    split at h
    · cases h
    · next octets haddr =>
      split at h
      · cases h
      · next hbits =>
        cases h
        simp only [Bool.or_eq_true, beq_iff_eq, bne_iff_ne, ne_eq, not_or,
          Decidable.not_not] at hbits
        refine ⟨p, octets, hp, haddr, hbits.1, hbits.2, ?_⟩
        split <;> simp [Net.dottedDecimal, wildcard, String.append_assoc]

/-- A dotted-decimal text holds no wildcard. -/
theorem star_not_mem_dottedDecimal (octets : List Nat) :
    '*' ∉ (Net.dottedDecimal octets).toList := fun h => by
  rcases Net.isDigit_of_mem_dottedDecimal h with h | h <;> simp at h

/-- The dotted-decimal text of an IPv4 address matches the term of a prefix of whole octets
exactly when the address begins with the prefix's bits. -/
theorem globMatches_networkText {octets x : List Nat} (ho : Net.IsV4Octets octets)
    (hx : Net.IsV4Octets x) {bits : Nat} (hb : bits ∈ [8, 16, 24, 32]) :
    globMatches (Net.dottedDecimal (octets.take (bits / 8)) ++
        (if bits < 32 then ".*" else "")).toList (Net.dottedDecimal x).toList = true ↔
      (Net.addressBits x).take bits = (Net.addressBits octets).take bits := by
  obtain ⟨k, rfl, hk⟩ : ∃ k, bits = 8 * k ∧ 1 ≤ k ∧ k ≤ 4 := ⟨bits / 8, by
    rw [mem_octetLengths] at hb
    omega⟩
  rw [Nat.mul_div_cancel_left k (by norm_num),
    Net.take_addressBits_eq_iff hx.2 ho.2 (by rw [hx.1]; omega) (by rw [ho.1]; omega)]
  have hlen : (octets.take k).length = k := by simp [ho.1]; omega
  by_cases h4 : k < 4
  · -- the fixed octets, a dot, and a wildcard for the rest
    have htext : (Net.dottedDecimal (octets.take k) ++ ".*").toList =
        ((Net.dottedDecimal (octets.take k)).toList ++ ['.']) ++ ['*'] := by
      simp [String.toList_append]
    have hstar : '*' ∉ (Net.dottedDecimal (octets.take k)).toList ++ ['.'] := by
      simpa using star_not_mem_dottedDecimal (octets.take k)
    rw [if_pos (by omega), htext, globMatches_append_star hstar,
      Net.dottedDecimal_dot_prefix_iff (by rw [← List.length_pos_iff, hlen]; omega)
        (by rw [hlen, hx.1]; omega), hlen, eq_comm]
  · -- all four octets are fixed, and the term is the address itself
    have hk4 : k = 4 := by omega
    subst hk4
    have htake : ∀ y : List Nat, y.length = 4 → y.take 4 = y := fun y hy => by
      rw [List.take_of_length_le (by omega)]
    rw [if_neg (by omega), String.append_empty,
      globMatches_literal (star_not_mem_dottedDecimal _), htake octets ho.1, htake x hx.1,
      Net.dottedDecimal_inj (by rw [hx.1, ho.1])]

/-- A network value has a term exactly when its text, blanks trimmed, is an IPv4 prefix, not an
IPv4 address written in IPv6 form, of 8, 16, 24 or 32 bits. The term is then the octets the
prefix fixes, once the address's bits past the prefix are cleared, in decimal and joined by
dots, then `.*` unless the prefix has 32 bits; and the dotted-decimal text of an IPv4 address
matches it, `*` standing for any sequence of characters, exactly when the address begins with
the bits of the prefix. -/
theorem expand_network_matches_leading_bits (s : String) :
    ((∃ t, term .cidr s = .ok t) ↔
      ∃ p octets, Net.parsePrefix (Text.trimBlank s) = .ok p ∧ p.address = .v4 octets ∧
        p.bits ∈ [8, 16, 24, 32]) ∧
      ∀ t, term .cidr s = .ok t →
        ∃ p octets, Net.parsePrefix (Text.trimBlank s) = .ok p ∧ p.address = .v4 octets ∧
          t = Net.dottedDecimal ((Net.maskOctets p.bits octets).take (p.bits / 8)) ++
            (if p.bits < 32 then ".*" else "") ∧
          ∀ x, Net.IsV4Octets x → (globMatches t.toList (Net.dottedDecimal x).toList = true ↔
            (Net.addressBits x).take p.bits = (Net.addressBits octets).take p.bits) := by
  rw [term_cidr]
  refine ⟨?_, fun t ht => ?_⟩
  · rw [networkTerm_ok_iff, OctetAligned]
    constructor
    · rintro ⟨p, octets, hp, ha, h0, h8⟩
      exact ⟨p, octets, hp, ha, mem_octetLengths.mpr ⟨h0, h8, (Net.parsePrefix_v4 hp ha).2⟩⟩
    · rintro ⟨p, octets, hp, ha, hb⟩
      obtain ⟨h0, h8, -⟩ := mem_octetLengths.mp hb
      exact ⟨p, octets, hp, ha, h0, h8⟩
  · obtain ⟨p, octets, hp, ha, h0, h8, rfl⟩ := networkTerm_ok ht
    obtain ⟨hv4, h32⟩ := Net.parsePrefix_v4 hp ha
    refine ⟨p, octets, hp, ha, by rw [Net.take_maskOctets h8], fun x hx => ?_⟩
    exact globMatches_networkText hv4 hx (mem_octetLengths.mpr ⟨h0, h8, h32⟩)

/-- The network `10.1.2.3/16` is written `10.1.*`, which the addresses of `10.1.0.0/16` match
and no others. -/
theorem expand_network_matches_leading_bits_slash16 :
    term .cidr "10.1.2.3/16" = .ok "10.1.*" ∧
      ∃ p octets, Net.parsePrefix (Text.trimBlank "10.1.2.3/16") = .ok p ∧
        p.address = .v4 octets ∧
        "10.1.*" = Net.dottedDecimal ((Net.maskOctets p.bits octets).take (p.bits / 8)) ++
          (if p.bits < 32 then ".*" else "") ∧
        ∀ x, Net.IsV4Octets x →
          (globMatches "10.1.*".toList (Net.dottedDecimal x).toList = true ↔
            (Net.addressBits x).take p.bits = (Net.addressBits octets).take p.bits) :=
  have h : term .cidr "10.1.2.3/16" = .ok "10.1.*" :=
    eq_ok_of_toOption (by decide +kernel)
  ⟨h, (expand_network_matches_leading_bits "10.1.2.3/16").2 _ h⟩

end Query

end SigmaQuery
