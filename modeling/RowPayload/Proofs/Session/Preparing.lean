import RowPayload.Proofs.Session.Owned

/-!
# What opening a stream has asked for

A stream that opens has executed the command of its mode, if it has one, has asked the query
for the handle and has opened the payload at the path locator that the first row shows. This
holds whether its context owns the connection or borrows it.
-/

namespace RowPayload

open Engine

variable {ε ρ : Type}

/-! ## Contexts -/

namespace Context

variable {α : Type} {scope after : Scope Server ε}

/-- Work with a connection that has answered was done while the transaction was in progress, on
the connection. -/
theorem onConnection_ok {work : Nat → Work Error Server α} {answer : α}
    (done : (onConnection work : Scoped Server ε α).perform scope = (.ok answer, after)) :
    (work scope.context.connection).perform scope.store = (.ok answer, after.store) ∧
      after.context = scope.context := by
  by_cases active : scope.context.state = .active
  · rw [perform_onConnection work active] at done
    obtain ⟨answered, rfl⟩ := Prod.mk.inj done
    exact ⟨Prod.ext answered rfl, rfl⟩
  · rw [perform_onConnection_finished work active] at done
    cases done

/-- An operation of the server that has answered through a context has answered. -/
theorem operation_ok {operation : Nat → Server → Except Failure α × Server} {answer : α}
    (done : (onConnection fun id => Server.work (operation id) : Scoped Server ε α).perform scope =
      (.ok answer, after)) :
    operation scope.context.connection scope.store = (.ok answer, after.store) ∧
      after.context = scope.context := by
  obtain ⟨worked, context⟩ := onConnection_ok done
  refine ⟨?_, context⟩
  rw [Server.work, Work.perform_ofFunction] at worked
  cases result : operation scope.context.connection scope.store with
  | mk reply store =>
    rw [result] at worked
    cases reply with
    | error failure => cases worked
    | ok value =>
      cases worked
      rfl

end Context

namespace Stream

variable {schema : Schema ρ} {options : Options Server ε} {scope after : Scope Server ε}
  {filter : Clause}

/-- A row that was prepared was prepared by the command of the mode, if there is one, for the
clause that the filter compiles to. The values of the row are produced after those of the
filter. -/
theorem prepareRow_steps (done : (prepareRow options).perform scope = (.ok filter, after)) :
    after.context = scope.context ∧ ∃ middle later answer,
      (options.filter.compile scope.context.descriptor).perform scope.surroundings =
        (.ok filter, middle) ∧
      (Lifecycle.command scope.context.descriptor options.mode filter options.newRow).perform
        middle = (.ok answer, later) ∧
      (answer = none ∧ after.store = scope.store ∨ ∃ written count, answer = some written ∧
        scope.store.execute scope.context.connection written = (.ok count, after.store)) := by
  obtain ⟨_, _, checked, done⟩ := Work.perform_bind_ok done
  obtain ⟨-, rfl⟩ := Prod.mk.inj checked
  obtain ⟨_, _, got, done⟩ := Work.perform_bind_ok done
  cases got
  obtain ⟨clause, compiled, compiles, done⟩ := Work.perform_bind_ok done
  obtain ⟨compilesTo, rfl⟩ := Prod.mk.inj compiles
  obtain ⟨answer, written, writes, done⟩ := Work.perform_bind_ok done
  obtain ⟨wrote, rfl⟩ := Prod.mk.inj writes
  cases answer with
  | none =>
    cases done
    exact ⟨rfl, _, _, none, Prod.ext compilesTo rfl, Prod.ext wrote rfl, .inl ⟨rfl, rfl⟩⟩
  | some command =>
    obtain ⟨count, executed, executes, done⟩ := Work.perform_bind_ok done
    cases done
    obtain ⟨executes, context⟩ := Context.operation_ok executes
    exact ⟨context, _, _, some command, Prod.ext compilesTo rfl, Prod.ext wrote rfl,
      .inr ⟨command, count, rfl, executes⟩⟩

/-- A row that was prepared was prepared by the command of the mode, if there is one, for the
clause that the filter compiles to. -/
theorem prepareRow_ok (done : (prepareRow options).perform scope = (.ok filter, after)) :
    after.context = scope.context ∧
      (∃ later, (options.filter.compile scope.context.descriptor).perform scope.surroundings =
        (.ok filter, later)) ∧
      ∃ surroundings later answer,
      (Lifecycle.command scope.context.descriptor options.mode filter options.newRow).perform
        surroundings = (.ok answer, later) ∧
      (answer = none ∧ after.store = scope.store ∨ ∃ written count, answer = some written ∧
        scope.store.execute scope.context.connection written = (.ok count, after.store)) := by
  obtain ⟨context, middle, later, answer, compiled, performed, either⟩ := prepareRow_steps done
  exact ⟨context, ⟨middle, compiled⟩, middle, later, answer, performed, either⟩

/-- A row whose payload was opened is the first row of the query for the handle. The record was
rebuilt from it and the payload opened at the path locator that it shows. Appending has moved to
the end then. -/
theorem openRow_steps {opened : Opened ρ}
    (done : (openRow schema options filter).perform scope = (.ok opened, after)) :
    ∃ result row token asked ready,
      scope.store.query scope.context.connection (Lifecycle.handleQuery scope.context.descriptor
        filter options.access.canRead) = (.ok result, asked) ∧
      result.first? = some row ∧
      recordOf schema scope.context.descriptor options.access row = .ok opened.row ∧
      row.values[0]? = some (.text opened.path) ∧
      asked.openPayload scope.context.connection opened.path token options.access =
        (.ok opened.payload, ready.store) ∧ ready.context = scope.context ∧
      (options.mode ≠ .append ∧ after = ready ∨ options.mode = .append ∧
        (seekEnd opened.payload : Scoped Server ε Unit).perform ready = (.ok (), after)) := by
  obtain ⟨_, _, got, done⟩ := Work.perform_bind_ok done
  cases got
  obtain ⟨result, asked, queried, done⟩ := Work.perform_bind_ok done
  obtain ⟨answered, context⟩ := Context.operation_ok queried
  cases first : result.first? with
  | none =>
    rw [first] at done
    cases done
  | some row =>
    rw [first] at done
    obtain ⟨path, _, located, done⟩ := Work.perform_bind_ok done
    obtain ⟨shown, rfl⟩ := Prod.mk.inj located
    obtain ⟨token, _, offered, done⟩ := Work.perform_bind_ok done
    obtain ⟨-, rfl⟩ := Prod.mk.inj offered
    obtain ⟨record, _, rebuilt, done⟩ := Work.perform_bind_ok done
    obtain ⟨rebuilds, rfl⟩ := Prod.mk.inj rebuilt
    obtain ⟨payload, ready, opens, done⟩ := Work.perform_bind_ok done
    obtain ⟨opens, kept⟩ := Context.operation_ok opens
    rw [context] at opens kept
    have text : row.values[0]? = some (.text path) := by
      unfold locator at shown
      split at shown
      · rename_i text
        cases shown
        exact text
      · cases shown
    by_cases appending : options.mode = .append
    · rw [if_pos appending] at done
      obtain ⟨_, moved, sought, done⟩ := Work.perform_bind_ok done
      cases done
      exact ⟨result, row, token, asked.store, ready, answered, first, rebuilds, text, opens, kept,
        .inr ⟨appending, sought⟩⟩
    · rw [if_neg appending] at done
      cases done
      exact ⟨result, row, token, asked.store, after, answered, first, rebuilds, text, opens, kept,
        .inl ⟨appending, rfl⟩⟩

/-- A row whose payload was opened is the first row of the query for the handle, and the
payload was opened at the path locator that it shows. Appending has moved to the end then. -/
theorem openRow_cases {opened : Opened ρ}
    (done : (openRow schema options filter).perform scope = (.ok opened, after)) :
    ∃ result row token asked ready,
      scope.store.query scope.context.connection (Lifecycle.handleQuery scope.context.descriptor
        filter options.access.canRead) = (.ok result, asked) ∧
      result.first? = some row ∧ row.values[0]? = some (.text opened.path) ∧
      asked.openPayload scope.context.connection opened.path token options.access =
        (.ok opened.payload, ready.store) ∧ ready.context = scope.context ∧
      (options.mode ≠ .append ∧ after = ready ∨ options.mode = .append ∧
        (seekEnd opened.payload : Scoped Server ε Unit).perform ready = (.ok (), after)) := by
  obtain ⟨result, row, token, asked, ready, queried, first, -, opens⟩ := openRow_steps done
  exact ⟨result, row, token, asked, ready, queried, first, opens⟩

/-- A stream that opened has prepared its row and opened its payload. -/
theorem openOn_cases {context : Context} {world opened : World Server ε}
    {stream : Stream Server ε ρ}
    (opens : (openOn context schema options).perform world = (.ok stream, opened)) :
    ∃ filter ready found finish,
      (prepareRow options).perform ⟨world, context⟩ = (.ok filter, ready) ∧
      (openRow schema options filter).perform ready = (.ok found, finish) ∧
      stream = ⟨finish.context, found.payload, found.row, options.mode, options.access, found.path,
        options.onClose⟩ ∧ opened = finish.toWorld := by
  rw [openOn, Work.perform_ofFunction] at opens
  cases prepared : (prepare schema options).perform ⟨world, context⟩ with
  | mk answer finish =>
    rw [prepared] at opens
    cases answer with
    | error fault => cases opens
    | ok found =>
      cases opens
      obtain ⟨filter, ready, preparedRow, done⟩ := Work.perform_bind_ok prepared
      exact ⟨filter, ready, found, finish, preparedRow, done, rfl, rfl⟩

end Stream

end RowPayload
