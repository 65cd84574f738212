import ResourceScaffold.Text.Line

/-!
Contract: the templates that come with the program.

Owns:
- their names and their sources.

Does not own: reading or rendering them, and the files that replace them.
-/

namespace ResourceScaffold.Template

/-- The templates that come with the program. -/
inductive Builtin where
  | route
  | controller
  | service
  | repository
  | test
  | aggregatorImport
  | aggregatorRegistration
deriving DecidableEq, Repr

/-! ## Sources -/

/-- The route file: the router of the resource, the construction of its controller, and one
endpoint. -/
def routeSource : String :=
  Text.ofLines [
    "import \x7b Router \x7d from 'express';",
    "\x7b\x7b#if auth_import\x7d\x7d",
    "\x7b\x7bauth_import\x7d\x7d",
    "\x7b\x7b/if\x7d\x7d",
    "import \x7b \x7b\x7bpascal\x7d\x7dController \x7d from '../controller/\x7b\x7bpascal\x7d\x7dController';",
    "import \x7b \x7b\x7bpascal\x7d\x7dService \x7d from '../service/\x7b\x7bpascal\x7d\x7dService';",
    "import \x7b \x7b\x7bpascal\x7d\x7dRepository \x7d from '../repository/\x7b\x7bpascal\x7d\x7dRepository';",
    "",
    "const \x7b\x7broutes_ident\x7d\x7d = Router();",
    "",
    "export const make\x7b\x7bpascal\x7d\x7dController = () => \x7b",
    "  const repository = new \x7b\x7bpascal\x7d\x7dRepository();",
    "  const service = new \x7b\x7bpascal\x7d\x7dService(repository);",
    "  return new \x7b\x7bpascal\x7d\x7dController(service);",
    "\x7d;",
    "",
    "const \x7b\x7bcamel\x7d\x7dController = make\x7b\x7bpascal\x7d\x7dController();",
    "",
    "const BASE_PATH = '\x7b\x7bbase_path\x7d\x7d';",
    "",
    "\x7b\x7broutes_ident\x7d\x7d.get(`$\x7bBASE_PATH\x7d/:\x7b\x7bid_field\x7d\x7d`\x7b\x7b#if auth_middleware\x7d\x7d, \x7b\x7bauth_middleware\x7d\x7d\x7b\x7b/if\x7d\x7d, (req, res) => \x7b\x7bcamel\x7d\x7dController.getById(req, res));",
    "",
    "export \x7b \x7b\x7broutes_ident\x7d\x7d \x7d;"]

/-- The controller file: it delegates to the service and answers with JSON. -/
def controllerSource : String :=
  Text.ofLines [
    "import \x7b Response\x7b\x7b#unless request_import\x7d\x7d, Request\x7b\x7b/unless\x7d\x7d \x7d from 'express';",
    "\x7b\x7b#if request_import\x7d\x7d",
    "\x7b\x7brequest_import\x7d\x7d",
    "\x7b\x7b/if\x7d\x7d",
    "import \x7b \x7b\x7bpascal\x7d\x7dService \x7d from '../service/\x7b\x7bpascal\x7d\x7dService';",
    "",
    "export class \x7b\x7bpascal\x7d\x7dController \x7b",
    "  constructor(private \x7b\x7bcamel\x7d\x7dService: \x7b\x7bpascal\x7d\x7dService) \x7b\x7d",
    "",
    "  async getById(req: \x7b\x7brequest_type\x7d\x7d, res: Response) \x7b",
    "    const \x7b \x7b\x7bid_field\x7d\x7d \x7d = req.params;",
    "    const result = await this.\x7b\x7bcamel\x7d\x7dService.getById(Number(\x7b\x7bid_field\x7d\x7d));",
    "    return res.status(200).json(result);",
    "  \x7d",
    "\x7d"]

/-- The service file: it passes requests on to the repository. -/
def serviceSource : String :=
  Text.ofLines [
    "import \x7b \x7b\x7bpascal\x7d\x7dRepository \x7d from '../repository/\x7b\x7bpascal\x7d\x7dRepository';",
    "",
    "export class \x7b\x7bpascal\x7d\x7dService \x7b",
    "  constructor(private \x7b\x7bcamel\x7d\x7dRepository: \x7b\x7bpascal\x7d\x7dRepository) \x7b\x7d",
    "",
    "  async getById(\x7b\x7bid_field\x7d\x7d: number) \x7b",
    "    return this.\x7b\x7bcamel\x7d\x7dRepository.getById(\x7b\x7bid_field\x7d\x7d);",
    "  \x7d",
    "\x7d"]

/-- The repository file: a look-up that returns a fixed value. -/
def repositorySource : String :=
  Text.ofLines [
    "\x7b\x7b#if database_import\x7d\x7d",
    "\x7b\x7bdatabase_import\x7d\x7d",
    "",
    "\x7b\x7b/if\x7d\x7d",
    "export class \x7b\x7bpascal\x7d\x7dRepository \x7b",
    "  async getById(\x7b\x7bid_field\x7d\x7d: number) \x7b",
    "    console.log(\x7b \x7b\x7bid_field\x7d\x7d \x7d);",
    "    return \x7b \x7b\x7bid_field\x7d\x7d: 'Ok' \x7d;",
    "  \x7d",
    "\x7d"]

/-- The integration test: it builds all layers and checks the answer. With a request type of its own,
the request carries a user. -/
def testSource : String :=
  Text.ofLines [
    "import \x7b Response\x7b\x7b#unless request_import\x7d\x7d, Request\x7b\x7b/unless\x7d\x7d \x7d from 'express';",
    "\x7b\x7b#if request_import\x7d\x7d",
    "\x7b\x7brequest_import\x7d\x7d",
    "\x7b\x7b/if\x7d\x7d",
    "import \x7b \x7b\x7bpascal\x7d\x7dRepository \x7d from '../../src/repository/\x7b\x7bpascal\x7d\x7dRepository';",
    "import \x7b \x7b\x7bpascal\x7d\x7dService \x7d from '../../src/service/\x7b\x7bpascal\x7d\x7dService';",
    "import \x7b \x7b\x7bpascal\x7d\x7dController \x7d from '../../src/controller/\x7b\x7bpascal\x7d\x7dController';",
    "",
    "const make\x7b\x7bpascal\x7d\x7dController = () => \x7b",
    "  const repository = new \x7b\x7bpascal\x7d\x7dRepository();",
    "  const service = new \x7b\x7bpascal\x7d\x7dService(repository);",
    "  return new \x7b\x7bpascal\x7d\x7dController(service);",
    "\x7d;",
    "",
    "describe('\x7b\x7btitle\x7d\x7d Integration', () => \x7b",
    "  let mockRequest: Partial<\x7b\x7brequest_type\x7d\x7d>;",
    "  let mockResponse: Partial<Response>;",
    "",
    "  beforeEach(() => \x7b",
    "    mockRequest = \x7b",
    "      body: \x7b\x7d as any,",
    "\x7b\x7b#if request_import\x7d\x7d",
    "      user: \x7b id_user: 1, id_app: 29, user_name: 'Tester' \x7d as any,",
    "\x7b\x7b/if\x7d\x7d",
    "      params: \x7b \x7b\x7bid_field\x7d\x7d: '1' \x7d,",
    "      query: \x7b\x7d,",
    "    \x7d;",
    "",
    "    mockResponse = \x7b",
    "      status: jest.fn().mockReturnThis(),",
    "      json: jest.fn((param) => param),",
    "    \x7d;",
    "  \x7d);",
    "",
    "  afterEach(() => \x7b",
    "    jest.clearAllMocks();",
    "    jest.restoreAllMocks();",
    "  \x7d);",
    "",
    "  it('should be able to get \x7b\x7bcamel\x7d\x7d', async () => \x7b",
    "    const \x7b\x7bcamel\x7d\x7dController = make\x7b\x7bpascal\x7d\x7dController();",
    "    const response = await \x7b\x7bcamel\x7d\x7dController.getById(mockRequest as any, mockResponse as any);",
    "",
    "    expect(response).toMatchObject(\x7b \x7b\x7bid_field\x7d\x7d: 'Ok' \x7d);",
    "    expect(mockResponse.json).toHaveBeenCalledWith(\x7b \x7b\x7bid_field\x7d\x7d: 'Ok' \x7d);",
    "    expect(mockResponse.status).toHaveBeenCalledWith(200);",
    "  \x7d);",
    "\x7d);"]

def importSource : String :=
  Text.ofLines [
    "import \x7b \x7b\x7broutes_ident\x7d\x7d \x7d from './\x7b\x7bcamel\x7d\x7d.routes';",
    ""]

def registrationSource : String :=
  Text.ofLines [
    "\x7b\x7brouter_ident\x7d\x7d.use(\x7b\x7broutes_ident\x7d\x7d);",
    ""]

/-! ## Names -/

namespace Builtin

/-- All of them, in the order in which they are registered. -/
def all : List Builtin :=
  [route, controller, service, repository, test, aggregatorImport, aggregatorRegistration]

def name : Builtin → String
  | route => "route"
  | controller => "controller"
  | service => "service"
  | repository => "repository"
  | test => "test"
  | aggregatorImport => "aggregator_import"
  | aggregatorRegistration => "aggregator_registration"

def source : Builtin → String
  | route => routeSource
  | controller => controllerSource
  | service => serviceSource
  | repository => repositorySource
  | test => testSource
  | aggregatorImport => importSource
  | aggregatorRegistration => registrationSource

theorem mem_all (builtin : Builtin) : builtin ∈ all := by
  cases builtin <;> simp [all]

theorem name_injective {left right : Builtin} (same : left.name = right.name) : left = right := by
  revert same
  cases left <;> cases right <;> simp [name]

end Builtin

end ResourceScaffold.Template
