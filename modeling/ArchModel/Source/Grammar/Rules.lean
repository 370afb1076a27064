import ArchModel.Source.Grammar.Form

/-!
# The grammar

`Rule.forms` gives each rule its forms, in the order in which they are tried. A rule may start with
itself: its first forms then go on behind what was read already.
-/

namespace ArchModel.Source.Grammar

open Rule
open Form (anyOf maybe)

/-- The forms of a rule. -/
def Rule.forms : Rule → List (List Form)
  -- whole texts
  | file => [[.opt statements, Lexeme.finish]]
  | soleExpression => [[expressions, .many Lexeme.newline, Lexeme.finish]]
  | formatted => [[starExpressions]]
  -- statements
  | statements => [[.some statement]]
  | statement => [[compound], [simpleLine]]
  | compound => [
      [.ahead (anyOf ["def", "@", "async"]), function],
      [.ahead "if", condition],
      [.ahead (anyOf ["class", "@"]), classDef],
      [.ahead (anyOf ["with", "async"]), withBlock],
      [.ahead (anyOf ["for", "async"]), forLoop],
      [.ahead "try", attempt],
      [.ahead "while", whileLoop],
      [matching]]
  | simpleLine => [
      [simple, .notAhead ";", Lexeme.newline],
      [.sep ";" simple, .opt ";", Lexeme.newline]]
  | simple => [
      [assignment],
      [starExpressions],
      [.ahead "return", returning],
      [.ahead (anyOf ["import", "from"]), importing],
      [.ahead "raise", raising],
      ["pass"],
      [.ahead "del", deleting],
      [.ahead "yield", yielding],
      [.ahead "assert", asserting],
      ["break"],
      ["continue"],
      [.ahead "global", naming],
      [.ahead "nonlocal", naming]]
  | assignment => [
      [Lexeme.name, ":", expression, maybe ["=", assigned]],
      [.oneOf [["(", singleTarget, ")"], [singleMember]], ":", expression, maybe ["=", assigned]],
      [.some (.oneOf [[targets, "="]]), anyOf [yielding, starExpressions], .notAhead "="],
      [singleTarget, operation, .cut, anyOf [yielding, starExpressions]],
      [Misuse.assignment]]
  | assigned => [[yielding], [starExpressions]]
  | operation =>
      ["+=", "-=", "*=", "@=", "/=", "%=", "&=", "|=", "^=", "<<=", ">>=", "**=", "//="].map
        fun s => [.sign s]
  | returning => [["return", .opt starExpressions]]
  | raising => [["raise", expression, maybe ["from", expression]], ["raise"]]
  | naming => [["global", .sep "," Lexeme.name], ["nonlocal", .sep "," Lexeme.name]]
  | deleting => [
      ["del", deleteTargets, .ahead (anyOf [";", Lexeme.newline])],
      [Misuse.deletion]]
  | asserting => [["assert", expression, maybe [",", expression]]]
  | importing => [[importModules], [importMembers]]
  | importModules => [["import", moduleNames]]
  | importMembers => [
      ["from", .many (anyOf [".", "..."]), dottedName, "import", importTargets],
      ["from", .some (anyOf [".", "..."]), "import", importTargets]]
  | importTargets => [
      ["(", memberNames, .opt ",", ")"],
      [memberNames, .notAhead ","],
      ["*"],
      [Misuse.importTargets]]
  | memberNames => [[.sep "," memberName]]
  | memberName => [[Lexeme.name, maybe ["as", Lexeme.name]]]
  | moduleNames => [[.sep "," moduleName]]
  | moduleName => [[dottedName, maybe ["as", Lexeme.name]]]
  | dottedName => [[dottedName, ".", Lexeme.name], [Lexeme.name]]
  | block => [
      [Lexeme.newline, Lexeme.indent, statements, Lexeme.dedent],
      [simpleLine],
      [Misuse.block]]
  | decorators => [[.some (.oneOf [["@", namedExpression, Lexeme.newline]])]]
  | classDef => [[decorators, plainClass], [plainClass]]
  | plainClass => [
      [Misuse.classDef],
      ["class", Lexeme.name, maybe ["(", .opt arguments, ")"], ":", block]]
  | function => [[decorators, plainFunction], [plainFunction]]
  | plainFunction => [
      [Misuse.function],
      ["def", Lexeme.name, .must "(", .opt params, ")", maybe ["->", expression], .must ":",
        block],
      ["async", "def", Lexeme.name, .must "(", .opt params, ")", maybe ["->", expression],
        .must ":", block]]
  | params => [[Misuse.parameters], [parameters]]
  | parameters => [
      [slashParams, .many plainParam, .many defaultParam, .opt starParams],
      [slashDefaults, .many defaultParam, .opt starParams],
      [.some plainParam, .many defaultParam, .opt starParams],
      [.some defaultParam, .opt starParams],
      [starParams]]
  | slashParams => [[.some plainParam, "/", ","], [.some plainParam, "/", .ahead ")"]]
  | slashDefaults => [
      [.many plainParam, .some defaultParam, "/", ","],
      [.many plainParam, .some defaultParam, "/", .ahead ")"]]
  | starParams => [
      [Misuse.starParams],
      ["*", plainParam, .many anyParam, .opt restNamed],
      ["*", starredParam, .many anyParam, .opt restNamed],
      ["*", ",", .some anyParam, .opt restNamed],
      [restNamed]]
  | restNamed => [[Misuse.restNamed], ["**", plainParam]]
  | plainParam => [[param, ","], [param, .ahead ")"]]
  | starredParam => [[starHintParam, ","], [starHintParam, .ahead ")"]]
  | defaultParam => [[param, defaultValue, ","], [param, defaultValue, .ahead ")"]]
  | anyParam => [[param, .opt defaultValue, ","], [param, .opt defaultValue, .ahead ")"]]
  | param => [[Lexeme.name, .opt hint]]
  | starHintParam => [[Lexeme.name, starHint]]
  | hint => [[":", expression]]
  | starHint => [[":", starExpression]]
  | defaultValue => [["=", expression], [Misuse.default]]
  | defaultsBefore => [[slashDefaults], [.some defaultParam]]
  | condition => [
      [Misuse.condition],
      ["if", namedExpression, ":", block, furtherCondition],
      ["if", namedExpression, ":", block, .opt elseBlock]]
  | furtherCondition => [
      [Misuse.furtherCondition],
      ["elif", namedExpression, ":", block, furtherCondition],
      ["elif", namedExpression, ":", block, .opt elseBlock]]
  | elseBlock => [[Misuse.elseBlock], ["else", .must ":", block]]
  | whileLoop => [[Misuse.whileLoop], ["while", namedExpression, ":", block, .opt elseBlock]]
  | forLoop => [
      [Misuse.forLoop],
      ["for", targets, "in", .cut, starExpressions, ":", block, .opt elseBlock],
      ["async", "for", targets, "in", .cut, starExpressions, ":", block, .opt elseBlock],
      [Misuse.forTarget]]
  | withBlock => [
      [Misuse.withIndent],
      ["with", "(", .sep "," withItem, .opt ",", ")", ":", block],
      ["with", .sep "," withItem, ":", block],
      ["async", "with", "(", .sep "," withItem, .opt ",", ")", ":", block],
      ["async", "with", .sep "," withItem, ":", block],
      [Misuse.withBlock]]
  | withItem => [
      [expression, "as", target, .ahead (anyOf [",", ")", ":"])],
      [Misuse.withItem],
      [expression]]
  | attempt => [
      [Misuse.attempt],
      ["try", .must ":", block, finalBlock],
      ["try", .must ":", block, .some handler, .opt elseBlock, .opt finalBlock],
      ["try", .must ":", block, .some groupHandler, .opt elseBlock, .opt finalBlock]]
  | handler => [
      [Misuse.handlerIndent],
      ["except", expression, maybe ["as", Lexeme.name], ":", block],
      ["except", ":", block],
      [Misuse.handler]]
  | groupHandler => [
      [Misuse.groupHandlerIndent],
      ["except", "*", expression, maybe ["as", Lexeme.name], ":", block],
      [Misuse.handler]]
  | finalBlock => [[Misuse.finalBlock], ["finally", .must ":", block]]
  | matching => [
      [.soft "match", subject, ":", Lexeme.newline, Lexeme.indent, .some caseBlock,
        Lexeme.dedent],
      [Misuse.matching]]
  | subject => [[starNamed, ",", .opt starNamedList], [namedExpression]]
  | caseBlock => [[Misuse.caseBlock], [.soft "case", patterns, .opt guard, ":", block]]
  | guard => [["if", namedExpression]]
  -- patterns
  | patterns => [[openSequence], [pattern]]
  | pattern => [[asPattern], [orPattern]]
  | asPattern => [[orPattern, "as", captureName], [Misuse.asPattern]]
  | orPattern => [[.sep "|" closedPattern]]
  | closedPattern => [
      [literalPattern], [capture], [wildcard], [valuePattern], [groupPattern],
      [sequencePattern], [mappingPattern], [classPattern]]
  | literalPattern | literalKey => [
      [signedNumber, .notAhead (anyOf ["+", "-"])],
      [complexNumber],
      [texts],
      ["None"],
      ["True"],
      ["False"]]
  | complexNumber => [[signedReal, "+", imaginary], [signedReal, "-", imaginary]]
  | signedNumber => [[Lexeme.number], ["-", Lexeme.number]]
  | signedReal => [[real], ["-", real]]
  | real | imaginary => [[Lexeme.number]]
  | capture => [[captureName]]
  | captureName => [[.notAhead (.soft "_"), Lexeme.name, .notAhead (anyOf [".", "(", "="])]]
  | wildcard => [[.soft "_"]]
  | valuePattern => [[path, .notAhead (anyOf [".", "(", "="])]]
  | path => [[nameOrPath, ".", Lexeme.name]]
  | nameOrPath => [[path], [Lexeme.name]]
  | groupPattern => [["(", pattern, ")"]]
  | sequencePattern => [["[", .opt maybeSequence, "]"], ["(", .opt openSequence, ")"]]
  | openSequence => [[maybeStar, ",", .opt maybeSequence]]
  | maybeSequence => [[.sep "," maybeStar, .opt ","]]
  | maybeStar => [[starPattern], [pattern]]
  | starPattern => [["*", captureName], ["*", wildcard]]
  | mappingPattern => [
      ["\x7b", "\x7d"],
      ["\x7b", mappingRest, .opt ",", "\x7d"],
      ["\x7b", mappingItems, ",", mappingRest, .opt ",", "\x7d"],
      ["\x7b", mappingItems, .opt ",", "\x7d"]]
  | mappingItems => [[.sep "," mappingItem]]
  | mappingItem => [[anyOf [literalKey, path], ":", pattern]]
  | mappingRest => [["**", captureName]]
  | classPattern => [
      [nameOrPath, "(", ")"],
      [nameOrPath, "(", positionalPatterns, .opt ",", ")"],
      [nameOrPath, "(", keywordPatterns, .opt ",", ")"],
      [nameOrPath, "(", positionalPatterns, ",", keywordPatterns, .opt ",", ")"],
      [Misuse.classPattern]]
  | positionalPatterns => [[.sep "," pattern]]
  | keywordPatterns => [[.sep "," keywordPattern]]
  | keywordPattern => [[Lexeme.name, "=", pattern]]
  | mixedPatterns => [[maybe [positionalPatterns, ","], keywordPatterns, ",", positionalPatterns]]
  -- expressions
  | expressions => [
      [expression, .some (.oneOf [[",", expression]]), .opt ","],
      [expression, ","],
      [expression]]
  | expression => [
      [Misuse.expression],
      [Misuse.wordStatement],
      [disjunction, "if", disjunction, "else", expression],
      [disjunction],
      [lambda]]
  | plainExpression => [
      [disjunction, "if", disjunction, "else", expression],
      [disjunction],
      [lambda]]
  | yielding => [["yield", "from", expression], ["yield", .opt starExpressions]]
  | starExpressions => [
      [starExpression, .some (.oneOf [[",", starExpression]]), .opt ","],
      [starExpression, ","],
      [starExpression]]
  | starExpression => [["*", bitOr], [expression]]
  | starNamedList => [[.sep "," starNamed, .opt ","]]
  | starNamed => [["*", bitOr], [namedExpression]]
  | named => [[Lexeme.name, ":=", .cut, expression]]
  | namedExpression => [[named], [Misuse.named], [expression, .notAhead ":="]]
  | disjunction => [[conjunction, .some (.oneOf [["or", conjunction]])], [conjunction]]
  | conjunction => [[inversion, .some (.oneOf [["and", inversion]])], [inversion]]
  | inversion => [["not", inversion], [comparison]]
  | comparison => [[bitOr, .some compared], [bitOr]]
  | compared => [
      [equal], [unequal], [atMost], [less], [atLeast], [greater], [notIn], [isIn], [isNot], [same]]
  | equal => [["==", bitOr]]
  | unequal => [[.oneOf [["!="]], bitOr]]
  | atMost => [["<=", bitOr]]
  | less => [["<", bitOr]]
  | atLeast => [[">=", bitOr]]
  | greater => [[">", bitOr]]
  | notIn => [["not", "in", bitOr]]
  | isIn => [["in", bitOr]]
  | isNot => [["is", "not", bitOr]]
  | same => [["is", bitOr]]
  | bitOr => [[bitOr, "|", bitXor], [bitXor]]
  | bitXor => [[bitXor, "^", bitAnd], [bitAnd]]
  | bitAnd => [[bitAnd, "&", shift], [shift]]
  | shift => [[shift, "<<", sum], [shift, ">>", sum], [sum]]
  | sum => [[sum, "+", term], [sum, "-", term], [term]]
  | term => [
      [term, "*", factor], [term, "/", factor], [term, "//", factor], [term, "%", factor],
      [term, "@", factor], [factor]]
  | factor => [["+", factor], ["-", factor], ["~", factor], [power]]
  | power => [[awaited, "**", factor], [awaited]]
  | awaited => [["await", primary], [primary]]
  | primary => [
      [primary, ".", Lexeme.name],
      [primary, generator],
      [primary, "(", .opt arguments, ")"],
      [primary, "[", slices, "]"],
      [atom]]
  | slices => [[slice, .notAhead ","], [.sep "," (anyOf [slice, starred]), .opt ","]]
  | slice => [
      [.opt expression, ":", .opt expression, maybe [":", .opt expression]],
      [namedExpression]]
  | atom => [
      [Lexeme.name],
      ["True"],
      ["False"],
      ["None"],
      [.ahead Lexeme.text, texts],
      [Lexeme.number],
      [.ahead "(", anyOf [tupleDisplay, group, generator]],
      [.ahead "[", anyOf [listDisplay, listOver]],
      [.ahead "\x7b", anyOf [mappingDisplay, setDisplay, mappingOver, setOver]],
      ["..."]]
  | group => [["(", anyOf [yielding, namedExpression], ")"], [Misuse.group]]
  | texts => [[.some Lexeme.text]]
  | listDisplay => [["[", .opt starNamedList, "]"]]
  | tupleDisplay => [["(", maybe [starNamed, ",", .opt starNamedList], ")"]]
  | setDisplay => [["\x7b", starNamedList, "\x7d"]]
  | mappingDisplay => [["\x7b", .opt entries, "\x7d"], ["\x7b", Misuse.entries, "\x7d"]]
  | entries => [[.sep "," entry, .opt ","]]
  | entry => [["**", bitOr], [pair]]
  | pair => [[expression, ":", expression]]
  | clauses => [[.some clause]]
  | clause => [
      ["async", "for", targets, "in", .cut, disjunction, .many (.oneOf [["if", disjunction]])],
      ["for", targets, "in", .cut, disjunction, .many (.oneOf [["if", disjunction]])],
      [Misuse.forTarget]]
  | listOver => [["[", namedExpression, clauses, "]"], [Misuse.comprehension]]
  | setOver => [["\x7b", namedExpression, clauses, "\x7d"], [Misuse.comprehension]]
  | generator => [
      ["(", .oneOf [[named], [expression, .notAhead ":="]], clauses, ")"],
      [Misuse.comprehension]]
  | mappingOver => [["\x7b", pair, clauses, "\x7d"], [Misuse.mappingComprehension]]
  | lambda => [["lambda", .opt lambdaParams, ":", expression]]
  | lambdaParams => [[Misuse.lambdaParameters], [lambdaParameters]]
  | lambdaParameters => [
      [lambdaSlashParams, .many lambdaPlainParam, .many lambdaDefaultParam, .opt lambdaStarParams],
      [lambdaSlashDefaults, .many lambdaDefaultParam, .opt lambdaStarParams],
      [.some lambdaPlainParam, .many lambdaDefaultParam, .opt lambdaStarParams],
      [.some lambdaDefaultParam, .opt lambdaStarParams],
      [lambdaStarParams]]
  | lambdaSlashParams => [
      [.some lambdaPlainParam, "/", ","],
      [.some lambdaPlainParam, "/", .ahead ":"]]
  | lambdaSlashDefaults => [
      [.many lambdaPlainParam, .some lambdaDefaultParam, "/", ","],
      [.many lambdaPlainParam, .some lambdaDefaultParam, "/", .ahead ":"]]
  | lambdaStarParams => [
      [Misuse.lambdaStarParams],
      ["*", lambdaPlainParam, .many lambdaAnyParam, .opt lambdaRestNamed],
      ["*", ",", .some lambdaAnyParam, .opt lambdaRestNamed],
      [lambdaRestNamed]]
  | lambdaRestNamed => [[Misuse.lambdaRestNamed], ["**", lambdaPlainParam]]
  | lambdaPlainParam => [[lambdaParam, ","], [lambdaParam, .ahead ":"]]
  | lambdaDefaultParam => [[lambdaParam, defaultValue, ","], [lambdaParam, defaultValue, .ahead ":"]]
  | lambdaAnyParam => [
      [lambdaParam, .opt defaultValue, ","],
      [lambdaParam, .opt defaultValue, .ahead ":"]]
  | lambdaParam => [[Lexeme.name]]
  | lambdaDefaultsBefore => [[lambdaSlashDefaults], [.some lambdaDefaultParam]]
  | arguments => [[args, .opt ",", .ahead ")"], [Misuse.arguments]]
  | args => [
      [.sep "," (.oneOf [[starred], [.oneOf [[named], [expression, .notAhead ":="]],
        .notAhead "="]]), maybe [",", namedArgs]],
      [namedArgs]]
  | namedArgs => [
      [.sep "," namedOrStarred, ",", .sep "," namedOrSpread],
      [.sep "," namedOrStarred],
      [.sep "," namedOrSpread]]
  | starred => [["*", expression]]
  | namedOrStarred => [[Misuse.namedArgument], [Lexeme.name, "=", expression], [starred]]
  | namedOrSpread => [
      [Misuse.namedArgument],
      [Lexeme.name, "=", expression],
      ["**", expression]]
  -- targets
  | targets => [
      [target, .notAhead ","],
      [target, .many (.oneOf [[",", target]]), .opt ","]]
  | targetList => [[.sep "," target, .opt ","]]
  | targetTuple => [[target, .some (.oneOf [[",", target]]), .opt ","], [target, ","]]
  | target => [["*", .oneOf [[.notAhead "*", target]]], [starlessTarget]]
  | starlessTarget => [
      [targetPrimary, ".", Lexeme.name, .notAhead targetNext],
      [targetPrimary, "[", slices, "]", .notAhead targetNext],
      [targetAtom]]
  | targetAtom => [
      [Lexeme.name],
      ["(", starlessTarget, ")"],
      ["(", .opt targetTuple, ")"],
      ["[", .opt targetList, "]"]]
  | singleTarget => [[singleMember], [Lexeme.name], ["(", singleTarget, ")"]]
  | singleMember => [
      [targetPrimary, ".", Lexeme.name, .notAhead targetNext],
      [targetPrimary, "[", slices, "]", .notAhead targetNext]]
  | targetPrimary => [
      [targetPrimary, ".", Lexeme.name, .ahead targetNext],
      [targetPrimary, "[", slices, "]", .ahead targetNext],
      [targetPrimary, generator, .ahead targetNext],
      [targetPrimary, "(", .opt arguments, ")", .ahead targetNext],
      [atom, .ahead targetNext]]
  | targetNext => [["("], ["["], ["."]]
  | bracketedTarget => [[listDisplay], [tupleDisplay], ["(", bracketedTarget, ")"]]
  | deleteTargets => [[.sep "," deleteTarget, .opt ","]]
  | deleteTarget => [
      [targetPrimary, ".", Lexeme.name, .notAhead targetNext],
      [targetPrimary, "[", slices, "]", .notAhead targetNext],
      [deleteAtom]]
  | deleteAtom => [
      [Lexeme.name],
      ["(", deleteTarget, ")"],
      ["(", .opt deleteTargets, ")"],
      ["[", .opt deleteTargets, "]"]]

/-- Whether a rule may start with itself. -/
def Rule.growsLeft : Rule → Bool
  | dottedName | path | bitOr | bitXor | bitAnd | shift | sum | term | primary | targetPrimary =>
    true
  | _ => false

/-- Whether what a rule reads at a place is kept for when it is tried there again. -/
def Rule.isKept : Rule → Bool
  | simple | block | closedPattern | starPattern | expression | starExpression | disjunction
  | conjunction | inversion | factor | awaited | texts | arguments | target | starlessTarget
  | deleteTarget => true
  | r => r.growsLeft

end ArchModel.Source.Grammar
