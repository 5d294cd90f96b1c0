import SysExporter.Proofs.Config.Scanning

namespace SysExporter.Config

theorem readPlaceholder_of_ne {c : Char} (h : c ≠ '$') (rest : List Char) :
    readPlaceholder (c :: rest) = none := by
  unfold readPlaceholder
  split
  · rename_i heq
    exact absurd (List.cons.inj heq).1 h
  · rfl

-- Without a dollar sign a text has no placeholder.
theorem pieces_append {text : List Char} (h : '$' ∉ text) (rest : List Char) :
    pieces (text ++ rest) = text.map .plain ++ pieces rest := by
  induction text with
  | nil => rfl
  | cons c text ih =>
    obtain ⟨hc, htext⟩ := not_or.mp (mt List.mem_cons.mpr h)
    rw [List.cons_append, pieces_of_none (readPlaceholder_of_ne (Ne.symm hc) _), ih htext]
    rfl

theorem pieces_plain {text : List Char} (h : '$' ∉ text) : pieces text = text.map .plain := by
  have happend := pieces_append h []
  rwa [List.append_nil, pieces, List.append_nil] at happend

theorem filled_plain (env : Environment) (text : List Char) :
    (text.map Piece.plain).flatMap (Piece.filled env) = text := by
  rw [List.flatMap_map]
  exact List.flatMap_singleton' text

-- Without a dollar sign the variables do not matter.
theorem expand_plain (env : Environment) {text : String} (h : '$' ∉ text.toList) :
    expand env text = .ok text := by
  have hpieces := pieces_plain h
  rw [expand_eq_ok, hpieces, filled_plain, String.ofList_toList]
  simp [hpieces]

-- The value of the only placeholder goes in as it is.
theorem expand_hole {env : Environment} {before after : List Char} {first : Char}
    {name : List Char} {value : String} (hbefore : '$' ∉ before) (hafter : '$' ∉ after)
    (hfirst : isNameStart first = true) (hname : ∀ c ∈ name, isNameChar c = true)
    (hvalue : env (.ofList (first :: name)) = some value) :
    expand env (.ofList
      (before ++ '$' :: openBrace :: first :: (name ++ closeBrace :: after))) =
      .ok (.ofList (before ++ value.toList ++ after)) := by
  have hproper : Placeholder.Proper ⟨first :: name, none⟩ :=
    ⟨⟨(isNameStart_iff first).mp hfirst, fun c hc => (isNameChar_iff c).mp (hname c hc)⟩, by simp⟩
  have hread : readPlaceholder ('$' :: openBrace :: first :: (name ++ closeBrace :: after)) =
      some (⟨first :: name, none⟩, after) :=
    readPlaceholder_eq_some_iff.mpr ⟨hproper, by simp [Placeholder.written, closing]⟩
  have hpieces : pieces
      (before ++ '$' :: openBrace :: first :: (name ++ closeBrace :: after)) =
      before.map .plain ++ .hole ⟨first :: name, none⟩ :: after.map .plain := by
    rw [pieces_append hbefore, pieces_of_some hread, pieces_plain hafter]
  have hhole : Piece.filled env (.hole ⟨first :: name, none⟩) = value.toList := by
    simp only [Piece.filled, hvalue]
  rw [expand_eq_ok, String.toList_ofList, hpieces, List.flatMap_append, List.flatMap_cons,
    filled_plain, filled_plain, hhole, List.append_assoc]
  intro p hp
  rw [String.toList_ofList, hpieces] at hp
  obtain rfl : p = ⟨first :: name, none⟩ := by simpa using hp
  rintro ⟨hmissing, -⟩
  rw [hvalue] at hmissing
  cases hmissing

end SysExporter.Config
