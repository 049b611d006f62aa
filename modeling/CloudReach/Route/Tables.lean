import CloudReach.Route.Basic

/-!
# The routes of the services

Compute and load balancing by query operations; users and organizations of the configuration
service by resource operations.
-/

namespace CloudReach.RouteTable

def computeVersion : String := "2009-11-30"

def loadBalancerVersion : String := "2009-05-15"

def describeRegions : String := "DescribeRegions"

def describeZones : String := "DescribeAvailabilityZones"

def compute : RouteTable :=
  let operation (p : String × AnswerShape) : Route := .query p.1 computeVersion p.2
  ofRoutes <|
    [(describeRegions, .regionEndpoints),
      (describeZones, .availabilityZones),
      ("DescribeInstances", .instances),
      ("RunInstances", .instances),
      ("TerminateInstances", .instanceStateChanges),
      ("StartInstances", .instanceStateChanges),
      ("StopInstances", .instanceStateChanges),
      ("DescribeImages", .images),
      ("DescribeKeyPairs", .keyPairs),
      ("CreateKeyPair", .keyPair),
      ("DeleteKeyPair", .empty),
      ("DescribeSecurityGroups", .securityGroups),
      ("CreateSecurityGroup", .empty),
      ("DeleteSecurityGroup", .empty),
      ("AuthorizeSecurityGroupIngress", .empty),
      ("DescribeAddresses", .addresses),
      ("AllocateAddress", .publicIp),
      ("AssociateAddress", .empty),
      ("ReleaseAddress", .empty),
      ("DescribeVolumes", .volumes)].map operation

def loadBalancer : RouteTable :=
  let operation (p : String × AnswerShape) : Route := .query p.1 loadBalancerVersion p.2
  ofRoutes <|
    [("CreateLoadBalancer", .loadBalancerDns),
      ("DeleteLoadBalancer", .empty),
      ("DescribeLoadBalancers", .loadBalancers),
      ("RegisterInstancesWithLoadBalancer", .empty),
      ("DeregisterInstancesFromLoadBalancer", .empty)].map operation

def userPath : String := "/users/\x7busername\x7d"

def organizationPath : String := "/organizations/\x7borgname\x7d"

def chef : RouteTable :=
  ofRoutes
    [.resource "create_user" "POST" "/users" .keyFromJson,
      .resource "update_user" "PUT" userPath .userFromJson,
      (Route.resource "get_user" "GET" userPath .userFromJson).withNotFound .returnNone,
      .resource "delete_user" "DELETE" userPath .userFromJson,
      .resource "create_organization" "POST" "/organizations" .keyFromJson,
      .resource "update_organization" "PUT" organizationPath .organizationFromJson,
      (Route.resource "get_organization" "GET" organizationPath
        .organizationFromJson).withNotFound .returnNone,
      .resource "delete_organization" "DELETE" organizationPath .organizationFromJson]

end CloudReach.RouteTable
