/-!
# The constructs of a Java source

The names of everything that a Java source is built from, and the parts of a construct that can be
asked for by name. How each construct is written is said in `Source.Grammar.Rules`.
-/

namespace RoleAudit.Source

/-- A kind of construct. -/
inductive Construct where
  -- the whole source and its declarations
  | program
  | declaration
  | moduleDeclaration
  | moduleBody
  | moduleDirective
  | packageDeclaration
  | importDeclaration
  | classDeclaration
  | interfaceDeclaration
  | enumDeclaration
  | recordDeclaration
  | tagTypeDeclaration
  -- the heads of declarations
  | modifiers
  | typeParameters
  | typeParameter
  | typeBound
  | superclass
  | superInterfaces
  | extendsInterfaces
  | permits
  | typeList
  | throws
  -- their bodies and members
  | classBody
  | classMember
  | interfaceBody
  | enumBody
  | enumBodyDeclarations
  | enumConstant
  | tagTypeBody
  | tagTypeElement
  | fieldDeclaration
  | constantDeclaration
  | methodDeclaration
  | methodHeader
  | constructorDeclaration
  | constructorBody
  | explicitConstructorCall
  | compactConstructor
  | staticInitializer
  | variableDeclarators
  | variableDeclarator
  | variableId
  | variableInitializer
  | arrayInitializer
  | formalParameters
  | formalParameter
  | receiverParameter
  | spreadParameter
  -- tags
  | tagUse
  | markerTag
  | tag
  | tagArguments
  | elementPair
  | elementValue
  | elementArray
  -- names and types
  | name
  | scopedName
  | word
  | reservedWord
  | underscore
  | anyType
  | plainType
  | simpleType
  | taggedType
  | arrayType
  | genericType
  | scopedType
  | primitiveType
  | typeArguments
  | wildcard
  | dimensions
  -- statements
  | statement
  | block
  | expressionStatement
  | labeledStatement
  | ifStatement
  | whileStatement
  | doStatement
  | forStatement
  | enhancedForStatement
  | assertStatement
  | breakStatement
  | continueStatement
  | returnStatement
  | yieldStatement
  | throwStatement
  | synchronizedStatement
  | tryStatement
  | tryWithResources
  | resources
  | resource
  | catchClause
  | catchParameter
  | catchType
  | finallyClause
  | localVariable
  -- expressions
  | expression
  | operand
  | assignmentTarget
  | primary
  | castType
  | boundedCastType
  | lambda
  | lambdaHead
  | inferredParameters
  | instanceTest
  | literal
  | stringLiteral
  | constantWord
  | interpolation
  | classLiteral
  | parenthesized
  | objectCreation
  | creation
  | arrayCreation
  | dimensionExpression
  | fieldAccess
  | arrayAccess
  | methodCall
  | methodReference
  | templateExpression
  | argumentList
  | selfReference
  | superReference
  | switchExpression
  | switchBlock
  | switchGroup
  | switchRule
  | switchLabel
  | pattern
  | typePattern
  | recordPattern
  | recordPatternBody
  | recordPatternPart
  | guard
  deriving Repr, DecidableEq, Inhabited

/-- The parts of a construct that can be asked for by name. -/
inductive Field where
  | name
  | body
  | arguments
  deriving Repr, DecidableEq

/-- The constructs that stand as a whole between the braces of a block or one after the other in a
source. -/
def Construct.isStatement : Construct → Bool
  | expressionStatement | labeledStatement | ifStatement | whileStatement | doStatement
  | forStatement | enhancedForStatement | assertStatement | breakStatement | continueStatement
  | returnStatement | yieldStatement | throwStatement | synchronizedStatement | tryStatement
  | tryWithResources | localVariable => true
  | _ => false

end RoleAudit.Source
