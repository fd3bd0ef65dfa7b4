import RoleAudit.Source.Grammar.Phrase

/-!
# The grammar of Java sources

One rule per construct. The grammar accepts more than Java does: modifiers may be repeated, methods
of interfaces may have bodies, packages and imports may stand anywhere, a method without a type is a
constructor.

An expression is written flat, as operands with operators between them; how operators bind is of no
concern here. An expression that consists of a single operand is that operand.

Where two readings of a text differ in one part, the part that is listed first in its rule counts;
so a keyed argument of a tag comes before a plain one.
-/

namespace RoleAudit.Source

namespace Grammar

open Phrase Construct

/-- A construct that is shown in the tree. -/
def shown (c : Construct) (ps : List Phrase) : Rule := ⟨c, .shown, .seq ps⟩

/-- A construct whose parts belong to the construct around it. -/
def spliced (c : Construct) (ps : List Phrase) : Rule := ⟨c, .spliced, .seq ps⟩

/-- A construct that is one of several. -/
def oneOf (c : Construct) (ps : List Construct) : Rule := ⟨c, .spliced, .choice (ps.map the)⟩

/-- A name that can be asked for. -/
def nameOf (p : Phrase) : Phrase := labelled .name p

/-- A body that can be asked for. -/
def bodyOf (p : Phrase) : Phrase := labelled .body p

/-- An identifier. -/
def identifier : Phrase := token .identifier

/-- One of several fixed texts. -/
def anyOf (texts : List String) : Phrase := choice (texts.map fun s => token (.fixed s))

/-- Modifiers, if there are any. -/
def mods : Phrase := opt (the modifiers)

/-- The end of a declaration or statement. -/
def semicolon : Phrase := token (.fixed ";")

/-! ## Declarations -/

/-- The rules of whole sources and of declarations that hold no members. -/
def unitRules : List Rule := [
  shown program [many (choice [the statement, the methodDeclaration])],
  oneOf declaration [moduleDeclaration, packageDeclaration, importDeclaration, classDeclaration,
    recordDeclaration, interfaceDeclaration, tagTypeDeclaration, enumDeclaration],
  shown moduleDeclaration [many (the tagUse), opt "open", "module", nameOf (the name),
    bodyOf (the moduleBody)],
  shown moduleBody [inBraces (many (the moduleDirective))],
  shown moduleDirective [choice [
    seq ["requires", many (anyOf ["transitive", "static"]), the name],
    seq [anyOf ["exports", "opens"], the name, opt (seq ["to", commas (the name)])],
    seq ["uses", the name],
    seq ["provides", the name, "with", commas (the name)]], semicolon],
  shown packageDeclaration [many (the tagUse), "package", the name, semicolon],
  shown importDeclaration ["import", opt "static", the name, opt (seq [".", "*"]), semicolon]]

/-- The rules of type declarations. -/
def typeDeclarationRules : List Rule := [
  shown classDeclaration [mods, "class", nameOf identifier, opt (the typeParameters),
    opt (the superclass), opt (the superInterfaces), opt (the permits), bodyOf (the classBody)],
  shown interfaceDeclaration [mods, "interface", nameOf identifier, opt (the typeParameters),
    opt (the extendsInterfaces), opt (the permits), bodyOf (the interfaceBody)],
  shown enumDeclaration [mods, "enum", nameOf identifier, opt (the superInterfaces),
    bodyOf (the enumBody)],
  shown recordDeclaration [mods, "record", nameOf identifier, opt (the typeParameters),
    the formalParameters, opt (the superInterfaces), bodyOf (the classBody)],
  shown tagTypeDeclaration [mods, "@interface", nameOf identifier, bodyOf (the tagTypeBody)],
  shown modifiers [some (choice [the tagUse,
    anyOf ["public", "protected", "private", "abstract", "static", "final", "strictfp", "default",
      "synchronized", "native", "transient", "volatile", "sealed", "non-sealed"]])],
  shown typeParameters ["<", commas (the typeParameter), ">"],
  shown typeParameter [many (the tagUse), identifier, opt (the typeBound)],
  shown typeBound ["extends", the anyType, many (seq ["&", the anyType])],
  shown superclass ["extends", the anyType],
  shown superInterfaces ["implements", the typeList],
  shown extendsInterfaces ["extends", the typeList],
  shown permits ["permits", the typeList],
  shown typeList [commas (the anyType)],
  shown throws ["throws", commas (the anyType)]]

/-- The rules of bodies and their members. -/
def memberRules : List Rule := [
  shown classBody [inBraces (many (the classMember))],
  ⟨classMember, .spliced, choice [the fieldDeclaration, the recordDeclaration,
    the methodDeclaration, the compactConstructor, the classDeclaration, the interfaceDeclaration,
    the tagTypeDeclaration, the enumDeclaration, the block, the staticInitializer,
    the constructorDeclaration, semicolon]⟩,
  shown interfaceBody [inBraces (many (choice [the constantDeclaration, the enumDeclaration,
    the methodDeclaration, the classDeclaration, the interfaceDeclaration, the recordDeclaration,
    the tagTypeDeclaration, semicolon]))],
  shown enumBody [inBraces (seq [opt (commas (the enumConstant)), opt ",",
    opt (the enumBodyDeclarations)])],
  shown enumBodyDeclarations [semicolon, many (the classMember)],
  shown enumConstant [mods, nameOf identifier, opt (the argumentList),
    opt (bodyOf (the classBody))],
  shown tagTypeBody [inBraces (many (choice [the tagTypeElement, the constantDeclaration,
    the classDeclaration, the interfaceDeclaration, the enumDeclaration, the tagTypeDeclaration,
    semicolon]))],
  shown tagTypeElement [mods, the plainType, nameOf (the word), "(", ")", opt (the dimensions),
    opt (seq ["default", the elementValue]), semicolon],
  shown fieldDeclaration [mods, the plainType, the variableDeclarators, semicolon],
  shown constantDeclaration [mods, the plainType, the variableDeclarators, semicolon],
  shown methodDeclaration [mods, the methodHeader, choice [bodyOf (the block), semicolon]],
  spliced methodHeader [opt (seq [the typeParameters, many (the tagUse)]), the plainType,
    nameOf (the word), the formalParameters, opt (the dimensions), opt (the throws)],
  shown constructorDeclaration [mods, opt (the typeParameters), nameOf identifier,
    the formalParameters, opt (the throws), bodyOf (the constructorBody)],
  shown constructorBody [inBraces (seq [opt (the explicitConstructorCall), many (the statement)])],
  shown explicitConstructorCall [choice [
    seq [opt (the typeArguments), choice [the selfReference, the superReference]],
    seq [the primary, ".", opt (the typeArguments), the superReference]],
    the argumentList, semicolon],
  shown compactConstructor [mods, nameOf identifier, bodyOf (the block)],
  shown staticInitializer ["static", the block],
  spliced variableDeclarators [commas (the variableDeclarator)],
  shown variableDeclarator [the variableId, opt (seq ["=", the variableInitializer])],
  spliced variableId [nameOf (choice [the word, the underscore]), opt (the dimensions)],
  oneOf variableInitializer [expression, arrayInitializer],
  shown arrayInitializer [inBraces (seq [opt (commas (the variableInitializer)), opt ","])],
  shown formalParameters ["(", choice [the receiverParameter,
    seq [opt (seq [the receiverParameter, ","]),
      opt (commas (choice [the formalParameter, the spreadParameter]))]], ")"],
  shown formalParameter [mods, the plainType, the variableId],
  shown receiverParameter [many (the tagUse), the plainType, many (seq [identifier, "."]),
    the selfReference],
  shown spreadParameter [mods, the plainType, "...", many (the tagUse), the variableDeclarator]]

/-! ## Tags -/

/-- The rules of tags. -/
def tagRules : List Rule := [
  oneOf tagUse [markerTag, tag],
  shown markerTag ["@", nameOf (the name)],
  shown tag ["@", nameOf (the name), labelled .arguments (the tagArguments)],
  shown tagArguments ["(", opt (choice [commas (the elementPair), the elementValue]), ")"],
  shown elementPair [the word, "=", the elementValue],
  oneOf elementValue [expression, elementArray, tagUse],
  shown elementArray [inBraces (seq [opt (commas (the elementValue)), opt ","])]]

/-! ## Names and types -/

/-- The rules of names and types. -/
def typeRules : List Rule := [
  oneOf name [word, scopedName],
  shown scopedName [the name, ".", identifier],
  ⟨word, .spliced, choice [identifier, the reservedWord]⟩,
  shown reservedWord [anyOf ["open", "module", "record", "with", "sealed", "yield"]],
  shown underscore ["_"],
  oneOf anyType [plainType, taggedType],
  oneOf plainType [simpleType, arrayType],
  ⟨simpleType, .spliced, choice [the primitiveType, identifier, the scopedType, the genericType]⟩,
  shown taggedType [some (the tagUse), the plainType],
  shown arrayType [the plainType, the dimensions],
  shown genericType [choice [identifier, the scopedType], the typeArguments],
  shown scopedType [choice [identifier, the scopedType, the genericType], ".", many (the tagUse),
    identifier],
  shown primitiveType [anyOf ["void", "byte", "short", "int", "long", "char", "float", "double",
    "boolean"]],
  shown typeArguments ["<", opt (commas (choice [the anyType, the wildcard])), ">"],
  shown wildcard [many (the tagUse), "?",
    opt (choice [seq ["extends", the anyType], seq [the superReference, the anyType]])],
  shown dimensions [some (seq [many (the tagUse), "[", "]"])]]

/-! ## Statements -/

/-- The rules of statements. -/
def statementRules : List Rule := [
  ⟨statement, .spliced, choice ([declaration, expressionStatement, labeledStatement, ifStatement,
    whileStatement, forStatement, enhancedForStatement, block, assertStatement, doStatement,
    breakStatement, continueStatement, returnStatement, yieldStatement, switchExpression,
    synchronizedStatement, localVariable, throwStatement, tryStatement, tryWithResources].map the
    ++ [semicolon])⟩,
  shown block [inBraces (many (the statement))],
  shown expressionStatement [the expression, semicolon],
  shown labeledStatement [identifier, ":", the statement],
  shown ifStatement ["if", the parenthesized, the statement, opt (seq ["else", the statement])],
  shown whileStatement ["while", the parenthesized, the statement],
  shown doStatement ["do", the statement, "while", the parenthesized, semicolon],
  shown forStatement ["for", "(",
    choice [the localVariable, seq [opt (commas (the expression)), semicolon]],
    opt (the expression), semicolon, opt (commas (the expression)), ")", the statement],
  shown enhancedForStatement ["for", "(", mods, the plainType, the variableId, ":", the expression,
    ")", the statement],
  shown assertStatement ["assert", the expression, opt (seq [":", the expression]), semicolon],
  shown breakStatement ["break", opt identifier, semicolon],
  shown continueStatement ["continue", opt identifier, semicolon],
  shown returnStatement ["return", opt (the expression), semicolon],
  shown yieldStatement ["yield", the expression, semicolon],
  shown throwStatement ["throw", the expression, semicolon],
  shown synchronizedStatement ["synchronized", the parenthesized, the block],
  shown tryStatement ["try", the block,
    choice [some (the catchClause), seq [many (the catchClause), the finallyClause]]],
  shown tryWithResources ["try", the resources, the block, many (the catchClause),
    opt (the finallyClause)],
  shown resources ["(", the resource, many (seq [semicolon, the resource]), opt semicolon, ")"],
  shown resource [choice [seq [mods, the plainType, the variableId, "=", the expression],
    identifier, the fieldAccess]],
  shown catchClause ["catch", "(", the catchParameter, ")", the block],
  shown catchParameter [mods, the catchType, the variableId],
  shown catchType [the plainType, many (seq ["|", the plainType])],
  shown finallyClause ["finally", the block],
  shown localVariable [mods, the plainType, the variableDeclarators, semicolon]]

/-! ## Expressions -/

/-- Operators between two operands. -/
def infixTexts : List String :=
  [">", "<", ">=", "<=", "==", "!=", "&&", "||", "+", "-", "*", "/", "&", "|", "^", "%", "<<", ">>",
    ">>>"]

/-- Operators of assignments. -/
def assignTexts : List String :=
  ["=", "+=", "-=", "*=", "/=", "&=", "|=", "^=", "%=", "<<=", ">>=", ">>>="]

/-- The rules of expressions without their operands. -/
def expressionRules : List Rule := [
  ⟨expression, .compound, seq [the operand,
    many (seq [choice [anyOf infixTexts, seq ["?", the expression, ":"]], the operand])]⟩,
  spliced operand [
    many (choice [anyOf ["+", "-", "!", "~", "++", "--"], the castType,
      seq [the assignmentTarget, anyOf assignTexts], the lambdaHead]),
    choice [the primary, the switchExpression, the lambda, seq [the boundedCastType, the primary],
      seq [the boundedCastType, some (the lambdaHead), choice [the expression, the block]]],
    many (choice [anyOf ["++", "--"], the instanceTest])],
  oneOf assignmentTarget [word, fieldAccess, arrayAccess],
  spliced castType ["(", the anyType, ")"],
  spliced boundedCastType ["(", the anyType, some (seq ["&", the anyType]), ")"],
  spliced lambdaHead [choice [the word, the formalParameters, the inferredParameters], "->"],
  spliced lambda [the lambdaHead, the block],
  shown inferredParameters ["(", commas (the word), ")"],
  spliced instanceTest ["instanceof", opt "final",
    choice [seq [the anyType, opt (the word)], the recordPattern]],
  oneOf primary [literal, classLiteral, selfReference, word, parenthesized, objectCreation,
    fieldAccess, arrayAccess, methodCall, methodReference, arrayCreation, templateExpression]]

/-- The rules of operands. -/
def primaryRules : List Rule := [
  ⟨literal, .spliced, choice [token .number, token .character, the stringLiteral,
    the constantWord]⟩,
  shown constantWord [anyOf ["true", "false", "null"]],
  shown stringLiteral [choice [
    seq ["\"", many (choice [token .fragment, token .escape, the interpolation]), "\""],
    seq ["\"\"\"", many (choice [token .blockFragment, token .blockEscape, token .escape,
      the interpolation]), "\"\"\""]]],
  shown interpolation ["\\\x7b", the expression, "\x7d"],
  shown classLiteral [the plainType, ".", "class"],
  shown parenthesized ["(", the expression, ")"],
  shown objectCreation [opt (seq [the primary, "."]), the creation],
  spliced creation ["new", many (the tagUse), opt (seq [the typeArguments, many (the tagUse)]),
    the simpleType, the argumentList, opt (the classBody)],
  shown arrayCreation ["new", many (the tagUse), the simpleType, choice [
    seq [some (the dimensionExpression), opt (the dimensions)],
    seq [the dimensions, the arrayInitializer]]],
  shown dimensionExpression [many (the tagUse), "[", the expression, "]"],
  shown fieldAccess [choice [the primary, the superReference], opt (seq [".", the superReference]),
    ".", choice [the word, the selfReference]],
  shown arrayAccess [the primary, "[", the expression, "]"],
  shown methodCall [opt (seq [choice [the primary, the superReference], ".",
      opt (seq [the superReference, "."]), opt (the typeArguments)]), the word, the argumentList],
  shown methodReference [choice [the anyType, the primary, the superReference], "::",
    opt (the typeArguments), choice ["new", identifier]],
  shown templateExpression [the primary, ".", the stringLiteral],
  shown argumentList ["(", opt (commas (the expression)), ")"],
  shown selfReference ["this"],
  shown superReference ["super"],
  shown switchExpression ["switch", the parenthesized, the switchBlock],
  shown switchBlock [inBraces (choice [many (the switchGroup), some (the switchRule)])],
  shown switchGroup [some (seq [the switchLabel, ":"]), many (the statement)],
  shown switchRule [the switchLabel, "->",
    choice [the expressionStatement, the throwStatement, the block]],
  shown switchLabel [choice [
    seq ["case", choice [the pattern, commas (the expression)], opt (the guard)], "default"]],
  oneOf pattern [typePattern, recordPattern],
  shown typePattern [the plainType, the word],
  shown recordPattern [choice [the word, the genericType], the recordPatternBody],
  shown recordPatternBody ["(", opt (commas (choice [the recordPatternPart, the recordPattern])),
    ")"],
  shown recordPatternPart [choice [the underscore, seq [the plainType, the word]]],
  shown guard ["when", the expression]]

/-- All rules. -/
def rules : List Rule :=
  unitRules ++ typeDeclarationRules ++ memberRules ++ tagRules ++ typeRules ++ statementRules ++
    expressionRules ++ primaryRules

end Grammar

end RoleAudit.Source
