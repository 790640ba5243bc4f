import SeriesQuery.Expr.Eval
import SeriesQuery.Proofs.Expr.RoundTrip
import SeriesQuery.Query.Plan

/-!
# Attributes by their names

Where a plan takes a time or a value from an attribute, its query names the attribute by a constant.
The name comes from a template, so it may be any text. `field_reads_attribute` says that whatever
the name is, the expression is the path to the attribute of this name and nothing else: quotation
marks and backslashes of the name are escaped, so they do not end the constant, and what the lexer
resolves is what was escaped.
-/

namespace SeriesQuery

open Token

/-- A constant is read up to its own closing mark as the text that it was made from, whatever
follows it. -/
theorem quoted?_quoteConstant (s : String) (rest : List Char) :
    quoted? ((quoteConstant s).toList ++ rest) = some (s, rest) := by
  have hrest := quotedRest?_escaped s.toList rest
  have htext : (quoteConstant s).toList ++ rest =
      '"' :: (s.toList.flatMap (fun c => if c = '"' ∨ c = '\\' then ['\\', c] else [c]) ++
        '"' :: rest) := by
    simp [quoteConstant]
  rw [htext, quoted?, if_pos (.inr rfl), hrest]
  show some (String.ofList s.toList, rest) = _
  rw [String.ofList_toList]

namespace Expr

/-- The path to the attribute of a document with a name. -/
def attributeOf (name : String) : Expr := .path "doc" [.index (.literal (.str name))]

/-- The path to an attribute has a text. -/
theorem writable_attribute (name : String) : Writable (attributeOf name) := by
  have hdoc : IsVariable "doc" := by
    unfold IsVariable
    decide
  exact ⟨hdoc, trivial, trivial⟩

/-- The text of the path is the expression for the attribute: texts are quoted in both in the same
way. -/
theorem text_attribute (name : String) :
    (attributeOf name).text = (Source.field name).toExpression.toList := by
  have hquoted : (quoteConstant name).toList = literalText (.str name) := String.toList_ofList
  show "doc".toList ++ '[' :: (literalText (.str name) ++ [']']) =
    ("doc[" ++ quoteConstant name ++ "]").toList
  rw [String.toList_append, String.toList_append, hquoted]
  rfl

/-- The expression for an attribute is read as the path to it. -/
theorem parse_field (name : String) :
    parse (Source.field name).toExpression = .ok (attributeOf name) :=
  parse_of_toList (writable_attribute name) (text_attribute name).symm

/-- The path to an attribute leads to its value, or to null where the document does not have it. -/
theorem eval_attribute (name : String) (fields : Fields) :
    (attributeOf name).eval [("doc", .obj fields)] = (Dict.get? fields name).getD .null := by
  have hdoc : Dict.get? [("doc", Json.obj fields)] "doc" = some (.obj fields) := rfl
  unfold attributeOf
  rw [eval, hdoc]
  show (Json.obj fields).access (.str name) = _
  rw [Json.access]

end Expr

/-- The expression for an attribute of any name is read as the path with this name as its only step,
which gives the value of the attribute of every document, or null where there is none. The constant
that names the attribute ends nowhere but at its own mark. -/
theorem field_reads_attribute (name : String) :
    Expr.parse (Source.field name).toExpression =
      .ok (.path "doc" [.index (.literal (.str name))]) ∧
    (∀ fields : Fields, (Expr.path "doc" [.index (.literal (.str name))]).eval
      [("doc", .obj fields)] = (Dict.get? fields name).getD .null) ∧
    ∀ rest, Token.quoted? ((quoteConstant name).toList ++ rest) = some (name, rest) :=
  ⟨Expr.parse_field name, Expr.eval_attribute name, quoted?_quoteConstant name⟩

end SeriesQuery
