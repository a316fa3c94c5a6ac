import StreamWatch.Proofs.Stream.Links

/-! The two encodings of a link, read back. Parameters and the identifier of a stream are written in
different characters, but one decoder gets back either, whatever the text was; and neither holds a
character that means something in a link beside its query. -/
namespace StreamWatch.Stream

open Link (Params isAscii)

theorem isQueryChar_of_mem_encode {params : Params} {c : Char} (h : c ∈ params.encode) :
    isQueryChar c = true := by
  rcases Params.mem_encode h with h | h
  · rw [isQueryChar, h, Bool.true_or]
  · have all : ['*', '+', '%', '=', '&'].all isQueryChar = true := by decide
    exact List.all_eq_true.mp all c h

/-- Whatever the texts are, decoding gives them back. The bytes that an identifier is escaped to are
its UTF-8, and as it has no plus signs it can also be read like a value of a form. -/
theorem encodings_read_back (params : Params) (stream : String) :
    Params.decode params.encode = params ∧
    (Link.unescape (linkForm stream)).toByteArray = stream.toUTF8 ∧
    Link.unquote (linkForm stream) = stream.toList ∧
    Params.decodePiece (linkForm stream) = stream.toList ∧
    (∀ c ∈ params.encode ++ linkForm stream,
      isAscii c = true ∧ Text.isBlank c = false ∧ c ∉ ['#', '?', '/', ':']) ∧
    '&' ∉ linkForm stream ∧ '=' ∉ linkForm stream ∧ '+' ∉ linkForm stream := by
  have bytes : (Link.unescape (linkForm stream)).toByteArray = stream.toUTF8 := by
    rw [linkForm, Link.unescape_quote keepable_isLinkMark, Text.Utf8.toByteArray_encode]
  have unkept {c : Char} := @notMem_linkForm stream c
  refine ⟨Params.decode_encode params, bytes, Link.unquote_quote keepable_isLinkMark _,
    Params.decodePiece_quote keepable_isLinkMark (by decide) _, ?_,
    unkept (by decide) (by decide) (by decide), unkept (by decide) (by decide) (by decide),
    unkept (by decide) (by decide) (by decide)⟩
  intro c hc
  have query : isQueryChar c = true :=
    (List.mem_append.mp hc).elim isQueryChar_of_mem_encode isQueryChar_of_mem_linkForm
  obtain ⟨ascii, -, filled⟩ := plain_of_isQueryChar query
  have marks : (['#', '?', '/', ':'].all fun d => !isQueryChar d) = true := by decide
  have outside (hc : c ∈ ['#', '?', '/', ':']) : isQueryChar c = false := by
    simpa using List.all_eq_true.mp marks c hc
  exact ⟨ascii, filled, fun hc => ne_of_isQueryChar query (outside hc) rfl⟩

example : Params.encode [("a b", "(c)"), ("", "")] = "a+b=%28c%29&=".toList ∧
    linkForm "a b(c)" = "a%20b(c)".toList := by decide

end StreamWatch.Stream
