import ShardRouting.Proofs.Placement

/-! Common tables in front of sharded tables. A name of one part means the common table of that name, if there is
    one, but tables are bound by their names alone. So a common table is routed like the sharded table that it hides,
    and left alone exactly where it hides none. -/

namespace ShardRouting
namespace Sql

/-! ### Spared references -/

/-- Of the references that the walk comes to only names of one part are spared, those of common tables. -/
def Brief (references : List Reference) : Prop :=
  ∀ reference ∈ references, reference.walked = true → reference.spared = true → ∃ part, reference.name = [part]

namespace Brief

variable {references rest : List Reference}

theorem nil : Brief [] := List.forall_mem_nil _

theorem append (h : Brief references) (h' : Brief rest) : Brief (references ++ rest) :=
  List.forall_mem_append.mpr ⟨h, h'⟩

theorem aside (references : List Reference) : Brief (aside references) := by
  intro reference hreference hwalked
  obtain ⟨_, -, rfl⟩ := List.mem_map.mp hreference
  cases hwalked

theorem factors (common : List Ident) (fs : List Factor) : Brief (fs.map (Factor.reference common)) := by
  intro reference hreference _ hspared
  obtain ⟨factor, -, rfl⟩ := List.mem_map.mp hreference
  have hcommon : namesCommon common factor.name = true := hspared
  unfold namesCommon at hcommon
  split at hcommon
  · rename_i part hname
    exact ⟨part, hname⟩
  · cases hcommon

theorem target (name : ObjectName) : Brief [{ name }] := by
  intro reference hreference _ hspared
  rw [List.mem_singleton.mp hreference] at hspared
  cases hspared

end Brief

mutual

theorem Expr.brief (common : List Ident) : ∀ e : Expr, Brief (e.references common)
  | .ident _ => .nil
  | .column _ => .nil
  | .literal _ => .nil
  | .typed _ _ => .nil
  | .nested operand => Expr.brief common operand
  | .not operand => Expr.brief common operand
  | .sign _ operand => Expr.brief common operand
  | .binary left _ right => (Expr.brief common left).append (Expr.brief common right)
  | .inList left _ items => (Expr.brief common left).append (Expr.briefAll common items)
  | .between left _ low high =>
    (Expr.brief common left).append ((Expr.brief common low).append (Expr.brief common high))
  | .test left _ _ right => (Expr.brief common left).append (Expr.brief common right)
  | .isNull operand => Expr.brief common operand
  | .subquery query => Query.brief common query
  | .trim _ what subject => (Expr.brief common subject).append (Expr.brief common what)
  | .call _ pieces => Piece.briefAll common pieces
  | .form pieces => Piece.briefAll common pieces

theorem Expr.briefAll (common : List Ident) : ∀ es : List Expr, Brief (Expr.allReferences common es)
  | [] => .nil
  | e :: es => (Expr.brief common e).append (Expr.briefAll common es)

theorem Expr.briefOptional (common : List Ident) : ∀ e : Option Expr, Brief (Expr.optionalReferences common e)
  | none => .nil
  | some e => Expr.brief common e

theorem Expr.briefRows (common : List Ident) : ∀ rows : List (List Expr), Brief (Expr.rowReferences common rows)
  | [] => .nil
  | row :: rows => (Expr.briefAll common row).append (Expr.briefRows common rows)

theorem Piece.briefAll (common : List Ident) : ∀ pieces : List Piece, Brief (Piece.allReferences common pieces)
  | [] => .nil
  | piece :: pieces => (Piece.brief common piece).append (Piece.briefAll common pieces)

theorem Piece.brief (common : List Ident) : ∀ piece : Piece, Brief (piece.references common)
  | .words _ => .nil
  | .part operand => Expr.brief common operand
  | .aside _ => .aside _

theorem Query.brief (common : List Ident) : ∀ query : Query, Brief (query.references common)
  | { recursive, ctes, body, orderBy, limit, offset, limitBy, settings := _, fetch, ending := _ } =>
    let inner := Cte.names ctes ++ common
    (Brief.aside _).append ((Cte.briefAll (if recursive then inner else common) ctes).append
      (Body.brief inner body ((Expr.briefAll inner orderBy).append ((Expr.briefOptional inner limit).append
        ((Expr.briefAll inner limitBy).append ((Expr.briefOptional inner offset).append
          (Expr.briefOptional inner fetch)))))))

theorem Cte.brief (common : List Ident) : ∀ cte : Cte, Brief (cte.references common)
  | { alias_ := _, keyword := _, query, source := _ } => Query.brief common query

theorem Cte.briefAll (common : List Ident) : ∀ ctes : List Cte, Brief (Cte.allReferences common ctes)
  | [] => .nil
  | cte :: ctes => (Cte.brief common cte).append (Cte.briefAll (cte.alias_.name :: common) ctes)

theorem Body.brief (common : List Ident) : ∀ (body : Body) {tail : List Reference}, Brief tail →
    Brief (body.references common tail)
  | .select select, _, htail => Select.brief common select htail
  | .query query, _, htail => (Query.brief common query).append htail
  | .setOperation left _ right, _, htail =>
    (Body.brief common left .nil).append ((Body.brief common right .nil).append htail)
  | .values _ rows, _, htail => (Expr.briefRows common rows).append htail
  | .table _ _, _, htail => (Brief.aside _).append htail
  | .statement statement, _, htail => (Statement.brief common statement).append htail

theorem Select.brief (common : List Ident) : ∀ (select : Select) {tail : List Reference}, Brief tail →
    Brief (select.references common tail)
  | { head := _, projection, into := _, from_, views := _, prewhere, selection, groupBy, groupTail := _,
      clusterBy, distributeBy, sortBy, having, windowsBefore := _, qualify, windowsAfter := _,
      connectBy := _ }, _, htail => by
    refine (Brief.aside _).append (.append ?_ (.factors common _))
    refine (TableRef.briefAll common from_).append ((Expr.briefAll common projection).append ?_)
    refine (Expr.briefOptional common prewhere).append ((Expr.briefOptional common selection).append ?_)
    refine (Expr.briefAll common groupBy).append ((Expr.briefOptional common having).append ?_)
    refine (Expr.briefOptional common qualify).append ((Expr.briefAll common clusterBy).append ?_)
    exact (Expr.briefAll common distributeBy).append ((Expr.briefAll common sortBy).append htail)

theorem TableRef.brief (common : List Ident) : ∀ table : TableRef, Brief (table.inner common)
  | .table .. => .aside _
  | .derived _ query _ => Query.brief common query
  | .nested inner _ => TableRef.brief common inner
  | .join left _ right matching on _ => (TableRef.brief common left).append ((TableRef.brief common right).append
    ((Expr.briefOptional common matching).append (Expr.briefOptional common on)))
  | .turned .. => .aside _
  | .other .. => .aside _

theorem TableRef.briefAll (common : List Ident) : ∀ tables : List TableRef, Brief (TableRef.allInner common tables)
  | [] => .nil
  | table :: tables => (TableRef.brief common table).append (TableRef.briefAll common tables)

theorem Insert.brief (common : List Ident) : ∀ insert : Insert, Brief (insert.references common)
  | { head := _, target, alias_ := _, columns := _, middle := _, source := some query, trailer := _ } =>
    (Brief.aside _).append ((Query.brief common query).append (.target target))
  | { head := _, target, alias_ := _, columns := _, middle := _, source := none, trailer := _ } =>
    (Brief.aside _).append (Brief.nil.append (.target target))

theorem Update.brief (common : List Ident) : ∀ update : Update, Brief (update.references common)
  | { conflict := _, table, fromBefore := _, assignments, fromAfter := _, selection, returning := _ } =>
    (Brief.aside _).append (((TableRef.brief common table).append ((Expr.briefAll common assignments).append
      (Expr.briefOptional common selection))).append (.factors common _))

theorem Delete.brief (common : List Ident) : ∀ delete : Delete, Brief (delete.references common)
  | { targets := _, fromKeyword := _, from_, using_ := some others, selection, returning := _, orderBy, limit } =>
    (Brief.aside _).append (((TableRef.briefAll common from_).append ((TableRef.briefAll common others).append
      ((Expr.briefOptional common selection).append ((Expr.briefAll common orderBy).append
        (Expr.briefOptional common limit))))).append (.factors common _))
  | { targets := _, fromKeyword := _, from_, using_ := none, selection, returning := _, orderBy, limit } =>
    (Brief.aside _).append (((TableRef.briefAll common from_).append (Brief.nil.append
      ((Expr.briefOptional common selection).append ((Expr.briefAll common orderBy).append
        (Expr.briefOptional common limit))))).append (.factors common _))

theorem Statement.brief (common : List Ident) : ∀ statement : Statement, Brief (statement.references common)
  | .query query => Query.brief common query
  | .insert insert => Insert.brief common insert
  | .update update => Update.brief common update
  | .delete delete => Delete.brief common delete
  | .other => .nil

end

end Sql

open Sql

variable {setting : Setting} {statement : Statement} {routed : Routed}

/-! ### Routed statements -/

theorem Sql.Reference.sharded_part {reference : Reference} {part : Ident} (h : reference.name = [part]) :
    reference.sharded setting =
      (setting.engine.shardKey? setting.context setting.options.defaultSchema part.value).isSome := by
  have hlogical : reference.logical? setting.options.defaultSchema =
      some (setting.options.defaultSchema, part.value) := by
    rw [logical?, h]
    rfl
  rw [sharded, hlogical]

/-- No reference to a common table is listed or renamed exactly when the engine shards no table of the default schema
    that goes by the name of such a reference. -/
theorem common_tables_stay_iff (h : (Router.routeStatement setting statement).result = .ok routed) :
    Landed setting (fun reference => reference.bound setting && !reference.spared) (statement.references [])
        (namesOf (routed.statement.references [])) routed.tables ↔
      ∀ reference ∈ statement.references [], reference.walked = true → reference.spared = true →
        ∃ part, reference.name = [part] ∧
          setting.engine.shardKey? setting.context setting.options.defaultSchema part.value = none := by
  have hnarrower : ∀ reference : Reference, (reference.bound setting && !reference.spared) = true →
      reference.bound setting = true := fun reference hboth => (Bool.and_eq_true_iff.mp hboth).1
  rw [(routeStatement_landed h).narrowed_iff hnarrower]
  refine forall₂_congr fun reference hreference => ?_
  constructor
  · intro hunspared hwalked hspared
    obtain ⟨part, hname⟩ := Statement.brief [] statement reference hreference hwalked hspared
    refine ⟨part, hname, ?_⟩
    rw [← Option.isNone_iff_eq_none, ← Option.not_isSome, ← Reference.sharded_part hname]
    simp [Reference.bound, hwalked, hspared] at hunspared
    simp [hunspared]
  · intro hunsharded hbound
    obtain ⟨hwalked, hsharded⟩ := Bool.and_eq_true_iff.mp hbound
    cases hspared : reference.spared with
    | false => simp [hbound]
    | true =>
      obtain ⟨part, hname, hnone⟩ := hunsharded hwalked hspared
      rw [Reference.sharded_part hname, hnone] at hsharded
      cases hsharded

namespace Sample

/-- `WITH name AS (SELECT total FROM table WHERE id = 4) SELECT total FROM name WHERE id = 4`. -/
def withCommon (name table : String) : Statement :=
  let from_ (table : String) : Query := query (.select (select [.table [⟨table, none⟩] [] none []] (keyed "4")))
  .query { from_ name with ctes := [⟨{ name := ⟨name, none⟩ }, "", from_ table, none⟩] }

end Sample

/-- A common table that hides no sharded one is left alone, and the orders inside it are routed. -/
theorem common_tables_stay_recent :
    ∃ routed, (Router.routeStatement (Sample.under []) (Sample.withCommon "recent" "orders")).result = .ok routed ∧
      Landed (Sample.under []) (fun reference => reference.bound (Sample.under []) && !reference.spared)
        ((Sample.withCommon "recent" "orders").references []) (namesOf (routed.statement.references []))
        routed.tables := by
  obtain ⟨routed, h⟩ : ∃ routed,
      (Router.routeStatement (Sample.under []) (Sample.withCommon "recent" "orders")).result = .ok routed := ⟨_, rfl⟩
  have hreferences : (Sample.withCommon "recent" "orders").references [] =
      [{ name := [⟨"orders", none⟩] }, { name := [⟨"recent", none⟩], spared := true }] := by decide +kernel
  refine ⟨routed, h, (common_tables_stay_iff h).mpr ?_⟩
  rw [hreferences]
  refine List.forall_mem_cons.mpr ⟨fun _ => nofun, List.forall_mem_singleton.mpr fun _ _ => ?_⟩
  exact ⟨⟨"recent", none⟩, rfl, rfl⟩

/-- A common table named like the orders is routed as if it were them. -/
theorem common_table_routed :
    ∃ routed, (Router.routeStatement (Sample.under []) (Sample.withCommon "orders" "audit")).result = .ok routed ∧
      { name := [⟨"orders", none⟩], spared := true } ∈ (Sample.withCommon "orders" "audit").references [] ∧
      routed.tables = [⟨none, "orders", ⟨"main", "orders_even"⟩, [.value (.literal (.int 4))]⟩] ∧
      namesOf (routed.statement.references []) = [[⟨"audit", none⟩], [⟨"main", none⟩, ⟨"orders_even", none⟩]] := by
  refine ⟨_, rfl, ?_, rfl, ?_⟩
  · decide +kernel
  · decide +kernel

end ShardRouting
